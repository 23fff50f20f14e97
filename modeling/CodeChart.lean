import CodeChart.Main
import CodeChart.Proofs.Invocation.Decision
import CodeChart.Proofs.Walk.Limited
import CodeChart.Proofs.Walk.Readback
import CodeChart.Proofs.Invocation.Plan
import CodeChart.Proofs.Walk.Overflow
import CodeChart.Proofs.Executable.Outcome
import CodeChart.Proofs.Executable.Success
import CodeChart.Proofs.Invocation.Hyphens
import CodeChart.Proofs.Point.Reading
import CodeChart.Proofs.Invocation.Count
import CodeChart.Proofs.Walk.CodePoints
import CodeChart.Proofs.Walk.Parts
import CodeChart.Proofs.Walk.Record
import CodeChart.Proofs.Fault.Message
import CodeChart.Proofs.Walk.Layout
import CodeChart.Proofs.Entry.Labels
import CodeChart.Proofs.Entry.Unassigned
import CodeChart.Proofs.Invocation.Texts
import CodeChart.Proofs.Executable.Diagnostic
import CodeChart.Proofs.Walk.Counter
