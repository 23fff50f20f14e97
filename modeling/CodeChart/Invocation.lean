import CodeChart.Text.Utf8
import CodeChart.Walk

/-!
# Invocations

A program is called with its own path and with tokens, each of which is a sequence of bytes.  The
tokens stand for the points of a span and are read literally: a token with a hyphen is a value like
any other.  Two things are left of what command lines usually mean: a `--` in front of all values is
dropped, and a first token that looks like a long flag has to have a name in UTF-8.

`chart` reads the tokens and walks over the span.  `run` looks at the number of tokens before
anything else.
-/

namespace CodeChart

/-- A token of a command line. -/
abbrev Token := ByteArray

/-- The call of a program. -/
structure Invocation where
  /-- The path by which the program was called, if there is one. -/
  path? : Option Token
  /-- The tokens after it. -/
  arguments : List Token

namespace Invocation

/-- The call with these tokens, of which the first is the path. -/
def ofTokens : List Token → Invocation
  | [] => ⟨none, []⟩
  | path :: arguments => ⟨some path, arguments⟩

/-! ## The name of the program -/

/-- The parts of a path between slashes, without those that stay in place. -/
def components (path : Token) : List (List UInt8) :=
  (path.data.toList.splitOn '/'.toUInt8).filter fun part => part ≠ [] ∧ part ≠ ['.'.toUInt8]

/-- The last part of a path, if it names a file. -/
def fileName? (path : Token) : Option (List UInt8) :=
  (components path).getLast?.filter (· ≠ ['.'.toUInt8, '.'.toUInt8])

/-- The name of the program: the file name of its path if that is UTF-8, else the usual name. -/
def program (invocation : Invocation) : String :=
  let name? := do
    let path ← invocation.path?
    let name ← fileName? path
    String.fromUTF8? name.toByteArray
  name?.getD Usage.name

/-! ## The values -/

/-- What follows the two hyphens of a token that starts with them. -/
def afterHyphens? (token : Token) : Option (List UInt8) :=
  match token.data.toList with
  | first :: second :: rest =>
    if first = '-'.toUInt8 ∧ second = '-'.toUInt8 then some rest else none
  | _ => none

/-- The name of a long flag: what stands before the first equals sign. -/
def flagName (rest : List UInt8) : List UInt8 :=
  rest.takeWhile (· ≠ '='.toUInt8)

/-- Reads every token as text. -/
def decode (tokens : List Token) : Except Rejection (List String) :=
  match tokens.mapM String.fromUTF8? with
  | some values => .ok values
  | none => .error .notUtf8

/-- The values that the tokens stand for. -/
def values : List Token → Except Rejection (List String)
  | [] => .ok []
  | first :: rest =>
    match afterHyphens? first with
    | none => decode (first :: rest)
    | some [] => decode rest
    | some flag =>
      match String.fromUTF8? (flagName flag).toByteArray with
      | some _ => decode (first :: rest)
      | none => .error (.unknownFlag ("--" ++ Text.Utf8.lossy (flagName flag)))

/-! ## The chart that is called for -/

variable {σ : Type} [Sink σ]

/-- The span that the values stand for. -/
def span (invocation : Invocation) : Except Fault Span := do
  let values ← (values invocation.arguments).mapError (.rejected invocation.program)
  Span.ofTokens values

/-- Walks over the span that the values stand for. -/
def chart (invocation : Invocation) (catalogue : Catalogue) : Work σ UInt64 := do
  let span ← Work.ofExcept invocation.span
  Walk.chart catalogue span

/-- Walks over the span if there are exactly two tokens. -/
def run (invocation : Invocation) (catalogue : Catalogue) : Work σ UInt64 :=
  if invocation.arguments.length = 2 then invocation.chart catalogue
  else throw (.notTwoPoints invocation.arguments.length)

end Invocation

end CodeChart
