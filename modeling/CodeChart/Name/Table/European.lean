import CodeChart.Name.Run

/-!
# Names by run: combining marks, Greek, Cyrillic and Armenian

U+0300 to U+058F.
-/

namespace CodeChart.Name.Table

/-- Runs for combining marks, Greek, Cyrillic and Armenian, by ascending first code. -/
def european : Array Run := #[
  ⟨0x0300, "COMBINING ", ["GRAVE ACCENT,ACUTE ACCENT"]⟩,
  ⟨0x0302, "COMBINING ", ["CIRCUMFLEX ACCENT,TILDE,MACRON,OVERLINE,BREVE,DOT ABOVE,DIAERESIS,",
    "HOOK ABOVE,RING ABOVE,DOUBLE ACUTE ACCENT,CARON,VERTICAL LINE ABOVE,",
    "DOUBLE VERTICAL LINE ABOVE,DOUBLE GRAVE ACCENT,CANDRABINDU,INVERTED BREVE,",
    "TURNED COMMA ABOVE,COMMA ABOVE,REVERSED COMMA ABOVE,COMMA ABOVE RIGHT,",
    "GRAVE ACCENT BELOW"]⟩,
  ⟨0x0317, "COMBINING ", ["ACUTE ACCENT BELOW,LEFT TACK BELOW,RIGHT TACK BELOW,",
    "LEFT ANGLE ABOVE,HORN,LEFT HALF RING BELOW,UP TACK BELOW,DOWN TACK BELOW,",
    "PLUS SIGN BELOW,MINUS SIGN BELOW,PALATALIZED HOOK BELOW,RETROFLEX HOOK BELOW,DOT BELOW,",
    "DIAERESIS BELOW,RING BELOW,COMMA BELOW,CEDILLA,OGONEK,VERTICAL LINE BELOW,BRIDGE BELOW"]⟩,
  ⟨0x032B, "COMBINING ", ["INVERTED DOUBLE ARCH BELOW,CARON BELOW,CIRCUMFLEX ACCENT BELOW,",
    "BREVE BELOW,INVERTED BREVE BELOW,TILDE BELOW,MACRON BELOW,LOW LINE,DOUBLE LOW LINE,",
    "TILDE OVERLAY,SHORT STROKE OVERLAY,LONG STROKE OVERLAY,SHORT SOLIDUS OVERLAY,",
    "LONG SOLIDUS OVERLAY,RIGHT HALF RING BELOW,INVERTED BRIDGE BELOW,SQUARE BELOW"]⟩,
  ⟨0x033C, "COMBINING ", ["SEAGULL BELOW,X ABOVE,VERTICAL TILDE,DOUBLE OVERLINE,",
    "GRAVE TONE MARK,ACUTE TONE MARK,GREEK PERISPOMENI,GREEK KORONIS,GREEK DIALYTIKA TONOS,",
    "GREEK YPOGEGRAMMENI,BRIDGE ABOVE,EQUALS SIGN BELOW,DOUBLE VERTICAL LINE BELOW,",
    "LEFT ANGLE BELOW,NOT TILDE ABOVE,HOMOTHETIC ABOVE,ALMOST EQUAL TO ABOVE"]⟩,
  ⟨0x034D, "COMBINING ", ["LEFT RIGHT ARROW BELOW,UPWARDS ARROW BELOW,GRAPHEME JOINER,",
    "RIGHT ARROWHEAD ABOVE,LEFT HALF RING ABOVE,FERMATA,X BELOW,LEFT ARROWHEAD BELOW,",
    "RIGHT ARROWHEAD BELOW,RIGHT ARROWHEAD AND UP ARROWHEAD BELOW,RIGHT HALF RING ABOVE,",
    "DOT ABOVE RIGHT,ASTERISK BELOW,DOUBLE RING BELOW,ZIGZAG ABOVE"]⟩,
  ⟨0x035C, "COMBINING DOUBLE ", ["BREVE BELOW,BREVE,MACRON,MACRON BELOW,TILDE,INVERTED BREVE,",
    "RIGHTWARDS ARROW BELOW"]⟩,
  ⟨0x0363, "COMBINING LATIN SMALL LETTER ", ["A,E,I,O,U,C,D,H,M,R,T,V,X"]⟩,
  ⟨0x0370, "GREEK ", ["CAPITAL LETTER HETA,SMALL LETTER HETA,CAPITAL LETTER ARCHAIC SAMPI,",
    "SMALL LETTER ARCHAIC SAMPI,NUMERAL SIGN,LOWER NUMERAL SIGN,",
    "CAPITAL LETTER PAMPHYLIAN DIGAMMA,SMALL LETTER PAMPHYLIAN DIGAMMA"]⟩,
  ⟨0x037A, "GREEK ", ["YPOGEGRAMMENI,SMALL REVERSED LUNATE SIGMA SYMBOL,",
    "SMALL DOTTED LUNATE SIGMA SYMBOL,SMALL REVERSED DOTTED LUNATE SIGMA SYMBOL,",
    "QUESTION MARK,CAPITAL LETTER YOT"]⟩,
  ⟨0x0384, "GREEK ", ["TONOS,DIALYTIKA TONOS,CAPITAL LETTER ALPHA WITH TONOS,ANO TELEIA"]⟩,
  ⟨0x0388, "GREEK CAPITAL LETTER ", ["EPSILON WITH TONOS,ETA WITH TONOS,IOTA WITH TONOS"]⟩,
  ⟨0x038C, "GREEK CAPITAL LETTER OMICRON WITH TONOS", [""]⟩,
  ⟨0x038E, "GREEK ", ["CAPITAL LETTER UPSILON WITH TONOS,CAPITAL LETTER OMEGA WITH TONOS,",
    "SMALL LETTER IOTA WITH DIALYTIKA AND TONOS"]⟩,
  ⟨0x0391, "GREEK CAPITAL LETTER ", ["ALPHA,BETA,GAMMA,DELTA,EPSILON,ZETA,ETA,THETA,IOTA,",
    "KAPPA,LAMDA,MU,NU,XI,OMICRON,PI,RHO"]⟩,
  ⟨0x03A3, "GREEK CAPITAL LETTER ", ["SIGMA,TAU,UPSILON,PHI,CHI,PSI,OMEGA,IOTA WITH DIALYTIKA,",
    "UPSILON WITH DIALYTIKA"]⟩,
  ⟨0x03AC, "GREEK SMALL LETTER ", ["ALPHA WITH TONOS,EPSILON WITH TONOS,ETA WITH TONOS,",
    "IOTA WITH TONOS,UPSILON WITH DIALYTIKA AND TONOS,ALPHA,BETA,GAMMA,DELTA,EPSILON,ZETA,",
    "ETA,THETA,IOTA,KAPPA,LAMDA,MU,NU,XI,OMICRON,PI,RHO,FINAL SIGMA,SIGMA,TAU,UPSILON,PHI,",
    "CHI,PSI,OMEGA,IOTA WITH DIALYTIKA,UPSILON WITH DIALYTIKA,OMICRON WITH TONOS"]⟩,
  ⟨0x03CD, "GREEK ", ["SMALL LETTER UPSILON WITH TONOS,SMALL LETTER OMEGA WITH TONOS,",
    "CAPITAL KAI SYMBOL,BETA SYMBOL,THETA SYMBOL,UPSILON WITH HOOK SYMBOL"]⟩,
  ⟨0x03D3, "GREEK ", ["UPSILON WITH ACUTE AND HOOK SYMBOL,",
    "UPSILON WITH DIAERESIS AND HOOK SYMBOL,PHI SYMBOL,PI SYMBOL,KAI SYMBOL,",
    "LETTER ARCHAIC KOPPA,SMALL LETTER ARCHAIC KOPPA,LETTER STIGMA,SMALL LETTER STIGMA,",
    "LETTER DIGAMMA,SMALL LETTER DIGAMMA,LETTER KOPPA,SMALL LETTER KOPPA,LETTER SAMPI,",
    "SMALL LETTER SAMPI"]⟩,
  ⟨0x03E2, "COPTIC ", ["CAPITAL LETTER SHEI,SMALL LETTER SHEI,CAPITAL LETTER FEI,",
    "SMALL LETTER FEI,CAPITAL LETTER KHEI,SMALL LETTER KHEI,CAPITAL LETTER HORI,",
    "SMALL LETTER HORI,CAPITAL LETTER GANGIA,SMALL LETTER GANGIA,CAPITAL LETTER SHIMA,",
    "SMALL LETTER SHIMA,CAPITAL LETTER DEI,SMALL LETTER DEI"]⟩,
  ⟨0x03F0, "GREEK ", ["KAPPA SYMBOL,RHO SYMBOL,LUNATE SIGMA SYMBOL,LETTER YOT,",
    "CAPITAL THETA SYMBOL,LUNATE EPSILON SYMBOL,REVERSED LUNATE EPSILON SYMBOL,",
    "CAPITAL LETTER SHO,SMALL LETTER SHO,CAPITAL LUNATE SIGMA SYMBOL,CAPITAL LETTER SAN,",
    "SMALL LETTER SAN,RHO WITH STROKE SYMBOL"]⟩,
  ⟨0x03FD, "GREEK CAPITAL ", ["REVERSED LUNATE SIGMA SYMBOL,DOTTED LUNATE SIGMA SYMBOL,",
    "REVERSED DOTTED LUNATE SIGMA SYMBOL"]⟩,
  ⟨0x0400, "CYRILLIC CAPITAL LETTER ", ["IE WITH GRAVE,IO,DJE,GJE,UKRAINIAN IE,DZE,",
    "BYELORUSSIAN-UKRAINIAN I,YI,JE,LJE,NJE,TSHE,KJE,I WITH GRAVE,SHORT U,DZHE,A,BE,VE,GHE,",
    "DE,IE,ZHE,ZE,I,SHORT I,KA,EL,EM,EN,O,PE,ER,ES,TE,U,EF,HA,TSE,CHE,SHA,SHCHA,HARD SIGN,",
    "YERU,SOFT SIGN,E,YU,YA"]⟩,
  ⟨0x0430, "CYRILLIC SMALL LETTER ", ["A,BE,VE,GHE,DE,IE,ZHE,ZE,I,SHORT I,KA,EL,EM,EN,O,PE,ER,",
    "ES,TE,U,EF,HA,TSE,CHE,SHA,SHCHA,HARD SIGN,YERU,SOFT SIGN,E,YU,YA,IE WITH GRAVE,IO,DJE,",
    "GJE,UKRAINIAN IE,DZE,BYELORUSSIAN-UKRAINIAN I,YI,JE,LJE,NJE,TSHE,KJE,I WITH GRAVE,",
    "SHORT U,DZHE"]⟩,
  ⟨0x0460, "CYRILLIC ", ["CAPITAL LETTER OMEGA,SMALL LETTER OMEGA,CAPITAL LETTER YAT,",
    "SMALL LETTER YAT,CAPITAL LETTER IOTIFIED E,SMALL LETTER IOTIFIED E,",
    "CAPITAL LETTER LITTLE YUS,SMALL LETTER LITTLE YUS,CAPITAL LETTER IOTIFIED LITTLE YUS,",
    "SMALL LETTER IOTIFIED LITTLE YUS,CAPITAL LETTER BIG YUS"]⟩,
  ⟨0x046B, "CYRILLIC ", ["SMALL LETTER BIG YUS,CAPITAL LETTER IOTIFIED BIG YUS,",
    "SMALL LETTER IOTIFIED BIG YUS,CAPITAL LETTER KSI,SMALL LETTER KSI,CAPITAL LETTER PSI,",
    "SMALL LETTER PSI,CAPITAL LETTER FITA,SMALL LETTER FITA,CAPITAL LETTER IZHITSA,",
    "SMALL LETTER IZHITSA,CAPITAL LETTER IZHITSA WITH DOUBLE GRAVE ACCENT"]⟩,
  ⟨0x0477, "CYRILLIC ", ["SMALL LETTER IZHITSA WITH DOUBLE GRAVE ACCENT,CAPITAL LETTER UK,",
    "SMALL LETTER UK,CAPITAL LETTER ROUND OMEGA,SMALL LETTER ROUND OMEGA,",
    "CAPITAL LETTER OMEGA WITH TITLO,SMALL LETTER OMEGA WITH TITLO,CAPITAL LETTER OT,",
    "SMALL LETTER OT,CAPITAL LETTER KOPPA,SMALL LETTER KOPPA,THOUSANDS SIGN"]⟩,
  ⟨0x0483, "COMBINING CYRILLIC ", ["TITLO,PALATALIZATION,DASIA PNEUMATA,PSILI PNEUMATA,",
    "POKRYTIE,HUNDRED THOUSANDS SIGN,MILLIONS SIGN"]⟩,
  ⟨0x048A, "CYRILLIC ", ["CAPITAL LETTER SHORT I WITH TAIL,SMALL LETTER SHORT I WITH TAIL"]⟩,
  ⟨0x048C, "CYRILLIC ", ["CAPITAL LETTER SEMISOFT SIGN,SMALL LETTER SEMISOFT SIGN,",
    "CAPITAL LETTER ER WITH TICK,SMALL LETTER ER WITH TICK,CAPITAL LETTER GHE WITH UPTURN,",
    "SMALL LETTER GHE WITH UPTURN,CAPITAL LETTER GHE WITH STROKE,",
    "SMALL LETTER GHE WITH STROKE,CAPITAL LETTER GHE WITH MIDDLE HOOK,",
    "SMALL LETTER GHE WITH MIDDLE HOOK"]⟩,
  ⟨0x0496, "CYRILLIC ", ["CAPITAL LETTER ZHE WITH DESCENDER,SMALL LETTER ZHE WITH DESCENDER,",
    "CAPITAL LETTER ZE WITH DESCENDER,SMALL LETTER ZE WITH DESCENDER,",
    "CAPITAL LETTER KA WITH DESCENDER,SMALL LETTER KA WITH DESCENDER,",
    "CAPITAL LETTER KA WITH VERTICAL STROKE,SMALL LETTER KA WITH VERTICAL STROKE,",
    "CAPITAL LETTER KA WITH STROKE"]⟩,
  ⟨0x049F, "CYRILLIC ", ["SMALL LETTER KA WITH STROKE,CAPITAL LETTER BASHKIR KA,",
    "SMALL LETTER BASHKIR KA,CAPITAL LETTER EN WITH DESCENDER,",
    "SMALL LETTER EN WITH DESCENDER,CAPITAL LIGATURE EN GHE,SMALL LIGATURE EN GHE,",
    "CAPITAL LETTER PE WITH MIDDLE HOOK,SMALL LETTER PE WITH MIDDLE HOOK,",
    "CAPITAL LETTER ABKHASIAN HA"]⟩,
  ⟨0x04A9, "CYRILLIC ", ["SMALL LETTER ABKHASIAN HA,CAPITAL LETTER ES WITH DESCENDER,",
    "SMALL LETTER ES WITH DESCENDER,CAPITAL LETTER TE WITH DESCENDER,",
    "SMALL LETTER TE WITH DESCENDER,CAPITAL LETTER STRAIGHT U,SMALL LETTER STRAIGHT U,",
    "CAPITAL LETTER STRAIGHT U WITH STROKE,SMALL LETTER STRAIGHT U WITH STROKE"]⟩,
  ⟨0x04B2, "CYRILLIC ", ["CAPITAL LETTER HA WITH DESCENDER,SMALL LETTER HA WITH DESCENDER,",
    "CAPITAL LIGATURE TE TSE,SMALL LIGATURE TE TSE,CAPITAL LETTER CHE WITH DESCENDER,",
    "SMALL LETTER CHE WITH DESCENDER,CAPITAL LETTER CHE WITH VERTICAL STROKE,",
    "SMALL LETTER CHE WITH VERTICAL STROKE,CAPITAL LETTER SHHA,SMALL LETTER SHHA"]⟩,
  ⟨0x04BC, "CYRILLIC ", ["CAPITAL LETTER ABKHASIAN CHE,SMALL LETTER ABKHASIAN CHE,",
    "CAPITAL LETTER ABKHASIAN CHE WITH DESCENDER,SMALL LETTER ABKHASIAN CHE WITH DESCENDER,",
    "LETTER PALOCHKA,CAPITAL LETTER ZHE WITH BREVE,SMALL LETTER ZHE WITH BREVE,",
    "CAPITAL LETTER KA WITH HOOK,SMALL LETTER KA WITH HOOK,CAPITAL LETTER EL WITH TAIL"]⟩,
  ⟨0x04C6, "CYRILLIC ", ["SMALL LETTER EL WITH TAIL,CAPITAL LETTER EN WITH HOOK,",
    "SMALL LETTER EN WITH HOOK,CAPITAL LETTER EN WITH TAIL,SMALL LETTER EN WITH TAIL,",
    "CAPITAL LETTER KHAKASSIAN CHE,SMALL LETTER KHAKASSIAN CHE,CAPITAL LETTER EM WITH TAIL,",
    "SMALL LETTER EM WITH TAIL,SMALL LETTER PALOCHKA,CAPITAL LETTER A WITH BREVE"]⟩,
  ⟨0x04D1, "CYRILLIC ", ["SMALL LETTER A WITH BREVE,CAPITAL LETTER A WITH DIAERESIS,",
    "SMALL LETTER A WITH DIAERESIS,CAPITAL LIGATURE A IE,SMALL LIGATURE A IE,",
    "CAPITAL LETTER IE WITH BREVE,SMALL LETTER IE WITH BREVE,CAPITAL LETTER SCHWA,",
    "SMALL LETTER SCHWA,CAPITAL LETTER SCHWA WITH DIAERESIS,",
    "SMALL LETTER SCHWA WITH DIAERESIS"]⟩,
  ⟨0x04DC, "CYRILLIC ", ["CAPITAL LETTER ZHE WITH DIAERESIS,SMALL LETTER ZHE WITH DIAERESIS,",
    "CAPITAL LETTER ZE WITH DIAERESIS,SMALL LETTER ZE WITH DIAERESIS,",
    "CAPITAL LETTER ABKHASIAN DZE,SMALL LETTER ABKHASIAN DZE,CAPITAL LETTER I WITH MACRON,",
    "SMALL LETTER I WITH MACRON,CAPITAL LETTER I WITH DIAERESIS"]⟩,
  ⟨0x04E5, "CYRILLIC ", ["SMALL LETTER I WITH DIAERESIS,CAPITAL LETTER O WITH DIAERESIS,",
    "SMALL LETTER O WITH DIAERESIS,CAPITAL LETTER BARRED O,SMALL LETTER BARRED O,",
    "CAPITAL LETTER BARRED O WITH DIAERESIS,SMALL LETTER BARRED O WITH DIAERESIS,",
    "CAPITAL LETTER E WITH DIAERESIS,SMALL LETTER E WITH DIAERESIS"]⟩,
  ⟨0x04EE, "CYRILLIC ", ["CAPITAL LETTER U WITH MACRON,SMALL LETTER U WITH MACRON,",
    "CAPITAL LETTER U WITH DIAERESIS,SMALL LETTER U WITH DIAERESIS,",
    "CAPITAL LETTER U WITH DOUBLE ACUTE,SMALL LETTER U WITH DOUBLE ACUTE,",
    "CAPITAL LETTER CHE WITH DIAERESIS,SMALL LETTER CHE WITH DIAERESIS,",
    "CAPITAL LETTER GHE WITH DESCENDER"]⟩,
  ⟨0x04F7, "CYRILLIC ", ["SMALL LETTER GHE WITH DESCENDER,CAPITAL LETTER YERU WITH DIAERESIS,",
    "SMALL LETTER YERU WITH DIAERESIS,CAPITAL LETTER GHE WITH STROKE AND HOOK,",
    "SMALL LETTER GHE WITH STROKE AND HOOK,CAPITAL LETTER HA WITH HOOK,",
    "SMALL LETTER HA WITH HOOK,CAPITAL LETTER HA WITH STROKE,SMALL LETTER HA WITH STROKE"]⟩,
  ⟨0x0500, "CYRILLIC ", ["CAPITAL LETTER KOMI DE,SMALL LETTER KOMI DE,CAPITAL LETTER KOMI DJE,",
    "SMALL LETTER KOMI DJE,CAPITAL LETTER KOMI ZJE,SMALL LETTER KOMI ZJE,",
    "CAPITAL LETTER KOMI DZJE,SMALL LETTER KOMI DZJE,CAPITAL LETTER KOMI LJE,",
    "SMALL LETTER KOMI LJE,CAPITAL LETTER KOMI NJE,SMALL LETTER KOMI NJE,",
    "CAPITAL LETTER KOMI SJE"]⟩,
  ⟨0x050D, "CYRILLIC ", ["SMALL LETTER KOMI SJE,CAPITAL LETTER KOMI TJE,SMALL LETTER KOMI TJE,",
    "CAPITAL LETTER REVERSED ZE,SMALL LETTER REVERSED ZE,CAPITAL LETTER EL WITH HOOK,",
    "SMALL LETTER EL WITH HOOK,CAPITAL LETTER LHA,SMALL LETTER LHA,CAPITAL LETTER RHA,",
    "SMALL LETTER RHA,CAPITAL LETTER YAE,SMALL LETTER YAE,CAPITAL LETTER QA"]⟩,
  ⟨0x051B, "CYRILLIC ", ["SMALL LETTER QA,CAPITAL LETTER WE,SMALL LETTER WE,",
    "CAPITAL LETTER ALEUT KA,SMALL LETTER ALEUT KA,CAPITAL LETTER EL WITH MIDDLE HOOK,",
    "SMALL LETTER EL WITH MIDDLE HOOK,CAPITAL LETTER EN WITH MIDDLE HOOK,",
    "SMALL LETTER EN WITH MIDDLE HOOK,CAPITAL LETTER PE WITH DESCENDER,",
    "SMALL LETTER PE WITH DESCENDER"]⟩,
  ⟨0x0526, "CYRILLIC ", ["CAPITAL LETTER SHHA WITH DESCENDER,SMALL LETTER SHHA WITH DESCENDER,",
    "CAPITAL LETTER EN WITH LEFT HOOK,SMALL LETTER EN WITH LEFT HOOK,CAPITAL LETTER DZZHE,",
    "SMALL LETTER DZZHE,CAPITAL LETTER DCHE,SMALL LETTER DCHE,",
    "CAPITAL LETTER EL WITH DESCENDER,SMALL LETTER EL WITH DESCENDER"]⟩,
  ⟨0x0531, "ARMENIAN CAPITAL LETTER ", ["AYB,BEN,GIM,DA,ECH,ZA,EH,ET,TO,ZHE,INI,LIWN,XEH,CA,",
    "KEN,HO,JA,GHAD,CHEH,MEN,YI,NOW,SHA,VO,CHA,PEH,JHEH,RA,SEH,VEW,TIWN,REH,CO,YIWN,PIWR,",
    "KEH,OH,FEH"]⟩,
  ⟨0x0559, "ARMENIAN ", ["MODIFIER LETTER LEFT HALF RING,APOSTROPHE,EMPHASIS MARK,",
    "EXCLAMATION MARK,COMMA,QUESTION MARK,ABBREVIATION MARK"]⟩,
  ⟨0x0560, "ARMENIAN SMALL LETTER ", ["TURNED AYB,AYB,BEN,GIM,DA,ECH,ZA,EH,ET,TO,ZHE,INI,LIWN,",
    "XEH,CA,KEN,HO,JA,GHAD,CHEH,MEN,YI,NOW,SHA,VO,CHA,PEH,JHEH,RA,SEH,VEW,TIWN,REH,CO,YIWN,",
    "PIWR,KEH,OH,FEH"]⟩,
  ⟨0x0587, "ARMENIAN ", ["SMALL LIGATURE ECH YIWN,SMALL LETTER YI WITH STROKE,FULL STOP,HYPHEN"]⟩,
  ⟨0x058D, "", ["RIGHT-FACING ARMENIAN ETERNITY SIGN,LEFT-FACING ARMENIAN ETERNITY SIGN,",
    "ARMENIAN DRAM SIGN"]⟩]

end CodeChart.Name.Table
