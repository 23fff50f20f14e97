import CodeChart.Name.Run

/-!
# Names by run: Hebrew, Arabic, Syriac and their neighbours

U+0590 to U+08FF.
-/

namespace CodeChart.Name.Table

/-- Runs for Hebrew, Arabic, Syriac and their neighbours, by ascending first code. -/
def middleEastern : Array Run := #[
  ⟨0x0591, "HEBREW ACCENT ", ["ETNAHTA,SEGOL,SHALSHELET,ZAQEF QATAN,ZAQEF GADOL,TIPEHA,REVIA,",
    "ZARQA,PASHTA,YETIV,TEVIR,GERESH,GERESH MUQDAM,GERSHAYIM,QARNEY PARA,TELISHA GEDOLA,",
    "PAZER,ATNAH HAFUKH,MUNAH,MAHAPAKH,MERKHA,MERKHA KEFULA,DARGA,QADMA,TELISHA QETANA,",
    "YERAH BEN YOMO,OLE,ILUY,DEHI,ZINOR"]⟩,
  ⟨0x05AF, "HEBREW MARK MASORA CIRCLE", [""]⟩,
  ⟨0x05B0, "HEBREW POINT ", ["SHEVA,HATAF SEGOL,HATAF PATAH,HATAF QAMATS,HIRIQ,TSERE,SEGOL,",
    "PATAH,QAMATS,HOLAM,HOLAM HASER FOR VAV,QUBUTS,DAGESH OR MAPIQ,METEG"]⟩,
  ⟨0x05BE, "HEBREW ", ["PUNCTUATION MAQAF,POINT RAFE,PUNCTUATION PASEQ,POINT SHIN DOT,",
    "POINT SIN DOT,PUNCTUATION SOF PASUQ,MARK UPPER DOT,MARK LOWER DOT,",
    "PUNCTUATION NUN HAFUKHA,POINT QAMATS QATAN"]⟩,
  ⟨0x05D0, "HEBREW LETTER ", ["ALEF,BET,GIMEL,DALET,HE,VAV,ZAYIN,HET,TET,YOD,FINAL KAF,KAF,",
    "LAMED,FINAL MEM,MEM,FINAL NUN,NUN,SAMEKH,AYIN,FINAL PE,PE,FINAL TSADI,TSADI,QOF,RESH,",
    "SHIN,TAV"]⟩,
  ⟨0x05EF, "HEBREW ", ["YOD TRIANGLE,LIGATURE YIDDISH DOUBLE VAV,LIGATURE YIDDISH VAV YOD,",
    "LIGATURE YIDDISH DOUBLE YOD,PUNCTUATION GERESH,PUNCTUATION GERSHAYIM"]⟩,
  ⟨0x0600, "ARABIC ", ["NUMBER SIGN,SIGN SANAH,FOOTNOTE MARKER,SIGN SAFHA,SIGN SAMVAT,",
    "NUMBER MARK ABOVE"]⟩,
  ⟨0x0606, "", ["ARABIC-INDIC CUBE ROOT,ARABIC-INDIC FOURTH ROOT,ARABIC RAY,",
    "ARABIC-INDIC PER MILLE SIGN,ARABIC-INDIC PER TEN THOUSAND SIGN,AFGHANI SIGN,",
    "ARABIC COMMA,ARABIC DATE SEPARATOR,ARABIC POETIC VERSE SIGN"]⟩,
  ⟨0x060F, "ARABIC SIGN ", ["MISRA,SALLALLAHOU ALAYHE WASSALLAM,ALAYHE ASSALLAM,",
    "RAHMATULLAH ALAYHE,RADI ALLAHOU ANHU,TAKHALLUS"]⟩,
  ⟨0x0615, "ARABIC ", ["SMALL HIGH TAH,SMALL HIGH LIGATURE ALEF WITH LAM WITH YEH,",
    "SMALL HIGH ZAIN,SMALL FATHA,SMALL DAMMA,SMALL KASRA,SEMICOLON,LETTER MARK,",
    "END OF TEXT MARK,TRIPLE DOT PUNCTUATION MARK,QUESTION MARK"]⟩,
  ⟨0x0620, "ARABIC LETTER ", ["KASHMIRI YEH,HAMZA,ALEF WITH MADDA ABOVE,ALEF WITH HAMZA ABOVE,",
    "WAW WITH HAMZA ABOVE,ALEF WITH HAMZA BELOW,YEH WITH HAMZA ABOVE,ALEF,BEH,TEH MARBUTA,",
    "TEH,THEH,JEEM,HAH,KHAH,DAL,THAL,REH,ZAIN,SEEN,SHEEN,SAD,DAD,TAH,ZAH,AIN,GHAIN,",
    "KEHEH WITH TWO DOTS ABOVE,KEHEH WITH THREE DOTS BELOW"]⟩,
  ⟨0x063D, "ARABIC LETTER FARSI YEH WITH ", ["INVERTED V,TWO DOTS ABOVE,THREE DOTS ABOVE"]⟩,
  ⟨0x0640, "ARABIC TATWEEL", [""]⟩,
  ⟨0x0641, "ARABIC LETTER ", ["FEH,QAF,KAF,LAM,MEEM,NOON,HEH,WAW,ALEF MAKSURA,YEH"]⟩,
  ⟨0x064B, "ARABIC ", ["FATHATAN,DAMMATAN,KASRATAN,FATHA,DAMMA,KASRA,SHADDA,SUKUN,",
    "MADDAH ABOVE,HAMZA ABOVE,HAMZA BELOW,SUBSCRIPT ALEF,INVERTED DAMMA,MARK NOON GHUNNA,",
    "ZWARAKAY,VOWEL SIGN SMALL V ABOVE,VOWEL SIGN INVERTED SMALL V ABOVE,",
    "VOWEL SIGN DOT BELOW,REVERSED DAMMA,FATHA WITH TWO DOTS,WAVY HAMZA BELOW"]⟩,
  ⟨0x0660, "ARABIC-INDIC DIGIT ", ["ZERO,ONE,TWO,THREE,FOUR,FIVE,SIX,SEVEN,EIGHT,NINE"]⟩,
  ⟨0x066A, "ARABIC ", ["PERCENT SIGN,DECIMAL SEPARATOR,THOUSANDS SEPARATOR,FIVE POINTED STAR"]⟩,
  ⟨0x066E, "ARABIC LETTER ", ["DOTLESS BEH,DOTLESS QAF,SUPERSCRIPT ALEF,ALEF WASLA,",
    "ALEF WITH WAVY HAMZA ABOVE,ALEF WITH WAVY HAMZA BELOW,HIGH HAMZA,HIGH HAMZA ALEF,",
    "HIGH HAMZA WAW,U WITH HAMZA ABOVE,HIGH HAMZA YEH,TTEH,TTEHEH,BEEH,TEH WITH RING,",
    "TEH WITH THREE DOTS ABOVE DOWNWARDS"]⟩,
  ⟨0x067E, "ARABIC LETTER ", ["PEH,TEHEH,BEHEH,HAH WITH HAMZA ABOVE,",
    "HAH WITH TWO DOTS VERTICAL ABOVE,NYEH,DYEH,HAH WITH THREE DOTS ABOVE,TCHEH,TCHEHEH,",
    "DDAL,DAL WITH RING,DAL WITH DOT BELOW,DAL WITH DOT BELOW AND SMALL TAH,DAHAL,DDAHAL,",
    "DUL,DAL WITH THREE DOTS ABOVE DOWNWARDS,DAL WITH FOUR DOTS ABOVE,RREH"]⟩,
  ⟨0x0692, "ARABIC LETTER REH WITH ", ["SMALL V,RING,DOT BELOW,SMALL V BELOW,",
    "DOT BELOW AND DOT ABOVE,TWO DOTS ABOVE"]⟩,
  ⟨0x0698, "ARABIC LETTER ", ["JEH,REH WITH FOUR DOTS ABOVE,SEEN WITH DOT BELOW AND DOT ABOVE,",
    "SEEN WITH THREE DOTS BELOW,SEEN WITH THREE DOTS BELOW AND THREE DOTS ABOVE"]⟩,
  ⟨0x069D, "ARABIC LETTER ", ["SAD WITH TWO DOTS BELOW,SAD WITH THREE DOTS ABOVE,",
    "TAH WITH THREE DOTS ABOVE,AIN WITH THREE DOTS ABOVE,DOTLESS FEH,",
    "FEH WITH DOT MOVED BELOW,FEH WITH DOT BELOW,VEH,FEH WITH THREE DOTS BELOW,PEHEH,",
    "QAF WITH DOT ABOVE,QAF WITH THREE DOTS ABOVE,KEHEH,SWASH KAF,KAF WITH RING,",
    "KAF WITH DOT ABOVE"]⟩,
  ⟨0x06AD, "ARABIC LETTER ", ["NG,KAF WITH THREE DOTS BELOW,GAF,GAF WITH RING,NGOEH,",
    "GAF WITH TWO DOTS BELOW,GUEH,GAF WITH THREE DOTS ABOVE,LAM WITH SMALL V,",
    "LAM WITH DOT ABOVE,LAM WITH THREE DOTS ABOVE,LAM WITH THREE DOTS BELOW,",
    "NOON WITH DOT BELOW,NOON GHUNNA,RNOON,NOON WITH RING,NOON WITH THREE DOTS ABOVE,",
    "HEH DOACHASHMEE"]⟩,
  ⟨0x06BF, "ARABIC LETTER ", ["TCHEH WITH DOT ABOVE,HEH WITH YEH ABOVE,HEH GOAL,",
    "HEH GOAL WITH HAMZA ABOVE,TEH MARBUTA GOAL,WAW WITH RING,KIRGHIZ OE,OE,U,YU,KIRGHIZ YU,",
    "WAW WITH TWO DOTS ABOVE,VE,FARSI YEH,YEH WITH TAIL,YEH WITH SMALL V,WAW WITH DOT ABOVE,",
    "E,YEH WITH THREE DOTS BELOW,YEH BARREE,YEH BARREE WITH HAMZA ABOVE"]⟩,
  ⟨0x06D4, "ARABIC ", ["FULL STOP,LETTER AE"]⟩,
  ⟨0x06D6, "ARABIC SMALL HIGH ", ["LIGATURE SAD WITH LAM WITH ALEF MAKSURA,",
    "LIGATURE QAF WITH LAM WITH ALEF MAKSURA,MEEM INITIAL FORM,LAM ALEF,JEEM,THREE DOTS,SEEN"]⟩,
  ⟨0x06DD, "ARABIC ", ["END OF AYAH,START OF RUB EL HIZB"]⟩,
  ⟨0x06DF, "ARABIC SMALL ", ["HIGH ROUNDED ZERO,HIGH UPRIGHT RECTANGULAR ZERO,",
    "HIGH DOTLESS HEAD OF KHAH,HIGH MEEM ISOLATED FORM,LOW SEEN,HIGH MADDA,WAW,YEH,HIGH YEH,",
    "HIGH NOON"]⟩,
  ⟨0x06E9, "ARABIC ", ["PLACE OF SAJDAH,EMPTY CENTRE LOW STOP,EMPTY CENTRE HIGH STOP,",
    "ROUNDED HIGH STOP WITH FILLED CENTRE,SMALL LOW MEEM,LETTER DAL WITH INVERTED V,",
    "LETTER REH WITH INVERTED V"]⟩,
  ⟨0x06F0, "EXTENDED ARABIC-INDIC DIGIT ", ["ZERO,ONE,TWO,THREE,FOUR,FIVE,SIX,SEVEN,EIGHT,NINE"]⟩,
  ⟨0x06FA, "ARABIC ", ["LETTER SHEEN WITH DOT BELOW,LETTER DAD WITH DOT BELOW,",
    "LETTER GHAIN WITH DOT BELOW,SIGN SINDHI AMPERSAND,SIGN SINDHI POSTPOSITION MEN,",
    "LETTER HEH WITH INVERTED V"]⟩,
  ⟨0x0700, "SYRIAC ", ["END OF PARAGRAPH,SUPRALINEAR FULL STOP,SUBLINEAR FULL STOP,",
    "SUPRALINEAR COLON,SUBLINEAR COLON,HORIZONTAL COLON,COLON SKEWED LEFT,",
    "COLON SKEWED RIGHT,SUPRALINEAR COLON SKEWED LEFT,SUBLINEAR COLON SKEWED RIGHT,",
    "CONTRACTION,HARKLEAN OBELUS,HARKLEAN METOBELUS,HARKLEAN ASTERISCUS"]⟩,
  ⟨0x070F, "SYRIAC ABBREVIATION MARK", [""]⟩,
  ⟨0x0710, "SYRIAC LETTER ", ["ALAPH,SUPERSCRIPT ALAPH,BETH,GAMAL,GAMAL GARSHUNI,DALATH,",
    "DOTLESS DALATH RISH,HE,WAW,ZAIN,HETH,TETH,TETH GARSHUNI,YUDH,YUDH HE,KAPH,LAMADH,MIM,",
    "NUN,SEMKATH,FINAL SEMKATH,E,PE,REVERSED PE,SADHE,QAPH,RISH,SHIN,TAW,PERSIAN BHETH,",
    "PERSIAN GHAMAL,PERSIAN DHALATH"]⟩,
  ⟨0x0730, "SYRIAC ", ["PTHAHA ABOVE,PTHAHA BELOW,PTHAHA DOTTED,ZQAPHA ABOVE,ZQAPHA BELOW,",
    "ZQAPHA DOTTED,RBASA ABOVE"]⟩,
  ⟨0x0737, "SYRIAC ", ["RBASA BELOW,DOTTED ZLAMA HORIZONTAL,DOTTED ZLAMA ANGULAR,HBASA ABOVE,",
    "HBASA BELOW,HBASA-ESASA DOTTED,ESASA ABOVE,ESASA BELOW,RWAHA,FEMININE DOT,QUSHSHAYA,",
    "RUKKAKHA,TWO VERTICAL DOTS ABOVE,TWO VERTICAL DOTS BELOW,THREE DOTS ABOVE,",
    "THREE DOTS BELOW,OBLIQUE LINE ABOVE,OBLIQUE LINE BELOW,MUSIC,BARREKH"]⟩,
  ⟨0x074D, "SYRIAC LETTER SOGDIAN ", ["ZHAIN,KHAPH,FE"]⟩,
  ⟨0x0750, "ARABIC LETTER BEH WITH ", ["THREE DOTS HORIZONTALLY BELOW,",
    "DOT BELOW AND THREE DOTS ABOVE,THREE DOTS POINTING UPWARDS BELOW,",
    "THREE DOTS POINTING UPWARDS BELOW AND TWO DOTS ABOVE,TWO DOTS BELOW AND DOT ABOVE,",
    "INVERTED SMALL V BELOW,SMALL V"]⟩,
  ⟨0x0757, "ARABIC LETTER HAH WITH ", ["TWO DOTS ABOVE,THREE DOTS POINTING UPWARDS BELOW"]⟩,
  ⟨0x0759, "ARABIC LETTER ", ["DAL WITH TWO DOTS VERTICALLY BELOW AND SMALL TAH,",
    "DAL WITH INVERTED SMALL V BELOW,REH WITH STROKE,SEEN WITH FOUR DOTS ABOVE,",
    "AIN WITH TWO DOTS ABOVE,AIN WITH THREE DOTS POINTING DOWNWARDS ABOVE,",
    "AIN WITH TWO DOTS VERTICALLY ABOVE,FEH WITH TWO DOTS BELOW"]⟩,
  ⟨0x0761, "ARABIC LETTER ", ["FEH WITH THREE DOTS POINTING UPWARDS BELOW,",
    "KEHEH WITH DOT ABOVE,KEHEH WITH THREE DOTS ABOVE,",
    "KEHEH WITH THREE DOTS POINTING UPWARDS BELOW,MEEM WITH DOT ABOVE,MEEM WITH DOT BELOW,",
    "NOON WITH TWO DOTS BELOW,NOON WITH SMALL TAH,NOON WITH SMALL V,LAM WITH BAR,",
    "REH WITH TWO DOTS VERTICALLY ABOVE"]⟩,
  ⟨0x076C, "ARABIC LETTER ", ["REH WITH HAMZA ABOVE,SEEN WITH TWO DOTS VERTICALLY ABOVE,",
    "HAH WITH SMALL ARABIC LETTER TAH BELOW,HAH WITH SMALL ARABIC LETTER TAH AND TWO DOTS,",
    "SEEN WITH SMALL ARABIC LETTER TAH AND TWO DOTS,",
    "REH WITH SMALL ARABIC LETTER TAH AND TWO DOTS,HAH WITH SMALL ARABIC LETTER TAH ABOVE"]⟩,
  ⟨0x0773, "ARABIC LETTER ALEF WITH EXTENDED ARABIC-INDIC DIGIT ", ["TWO ABOVE,THREE ABOVE"]⟩,
  ⟨0x0775, "ARABIC LETTER FARSI YEH WITH EXTENDED ARABIC-INDIC DIGIT ", ["TWO ABOVE,",
    "THREE ABOVE,FOUR BELOW"]⟩,
  ⟨0x0778, "ARABIC LETTER WAW WITH EXTENDED ARABIC-INDIC DIGIT ", ["TWO ABOVE,THREE ABOVE"]⟩,
  ⟨0x077A, "ARABIC LETTER YEH BARREE WITH EXTENDED ARABIC-INDIC DIGIT ", ["TWO ABOVE,THREE ABOVE"]⟩,
  ⟨0x077C, "ARABIC LETTER ", ["HAH WITH EXTENDED ARABIC-INDIC DIGIT FOUR BELOW,",
    "SEEN WITH EXTENDED ARABIC-INDIC DIGIT FOUR ABOVE,SEEN WITH INVERTED V,",
    "KAF WITH TWO DOTS ABOVE"]⟩,
  ⟨0x0780, "THAANA LETTER ", ["HAA,SHAVIYANI,NOONU,RAA,BAA,LHAVIYANI,KAAFU,ALIFU,VAAVU,MEEMU,",
    "FAAFU,DHAALU,THAA,LAAMU,GAAFU,GNAVIYANI,SEENU,DAVIYANI,ZAVIYANI,TAVIYANI,YAA,PAVIYANI,",
    "JAVIYANI,CHAVIYANI,TTAA,HHAA,KHAA,THAALU,ZAA,SHEENU,SAADHU,DAADHU,TO,ZO,AINU,GHAINU,",
    "QAAFU,WAAVU"]⟩,
  ⟨0x07A6, "THAANA ", ["ABAFILI,AABAAFILI,IBIFILI,EEBEEFILI,UBUFILI,OOBOOFILI,EBEFILI,",
    "EYBEYFILI,OBOFILI,OABOAFILI,SUKUN,LETTER NAA"]⟩,
  ⟨0x07C0, "NKO DIGIT ", ["ZERO,ONE,TWO,THREE,FOUR,FIVE,SIX,SEVEN,EIGHT,NINE"]⟩,
  ⟨0x07CA, "NKO LETTER ", ["A,EE,I,E,U,OO,O,DAGBASINNA,N,BA,PA,TA,JA,CHA,DA,RA,RRA,SA,GBA,FA,",
    "KA,LA,NA WOLOSO,MA,NYA,NA,HA,WA,YA,NYA WOLOSO,JONA JA,JONA CHA,JONA RA"]⟩,
  ⟨0x07EB, "NKO COMBINING ", ["SHORT HIGH TONE,SHORT LOW TONE,SHORT RISING TONE,",
    "LONG DESCENDING TONE,LONG HIGH TONE,LONG LOW TONE,LONG RISING TONE,NASALIZATION MARK,",
    "DOUBLE DOT ABOVE"]⟩,
  ⟨0x07F4, "NKO ", ["HIGH TONE APOSTROPHE,LOW TONE APOSTROPHE,SYMBOL OO DENNEN,",
    "SYMBOL GBAKURUNEN,COMMA,EXCLAMATION MARK,LAJANYALAN"]⟩,
  ⟨0x07FD, "NKO ", ["DANTAYALAN,DOROME SIGN,TAMAN SIGN"]⟩,
  ⟨0x0800, "SAMARITAN LETTER ", ["ALAF,BIT,GAMAN,DALAT,IY,BAA,ZEN,IT,TIT,YUT,KAAF,LABAT,MIM,",
    "NUN,SINGAAT,IN,FI,TSAADIY,QUF,RISH,SHAN,TAAF"]⟩,
  ⟨0x0816, "SAMARITAN ", ["MARK IN,MARK IN-ALAF,MARK OCCLUSION,MARK DAGESH,",
    "MODIFIER LETTER EPENTHETIC YUT,MARK EPENTHETIC YUT"]⟩,
  ⟨0x081C, "SAMARITAN VOWEL SIGN ", ["LONG E,E,OVERLONG AA,LONG AA,AA,OVERLONG A,LONG A,A"]⟩,
  ⟨0x0824, "SAMARITAN ", ["MODIFIER LETTER SHORT A,VOWEL SIGN SHORT A,VOWEL SIGN LONG U,",
    "VOWEL SIGN U,MODIFIER LETTER I,VOWEL SIGN LONG I,VOWEL SIGN I,VOWEL SIGN O,",
    "VOWEL SIGN SUKUN,MARK NEQUDAA"]⟩,
  ⟨0x0830, "SAMARITAN PUNCTUATION ", ["NEQUDAA,AFSAAQ,ANGED,BAU,ATMAAU,SHIYYAALAA"]⟩,
  ⟨0x0836, "SAMARITAN ABBREVIATION MARK", [""]⟩,
  ⟨0x0837, "SAMARITAN PUNCTUATION ", ["MELODIC QITSA,ZIQAA,QITSA,ZAEF,TURU,ARKAANU,",
    "SOF MASHFAAT,ANNAAU"]⟩,
  ⟨0x0840, "MANDAIC LETTER ", ["HALQA,AB,AG,AD,AH,USHENNA,AZ,IT,ATT,AKSA,AK,AL,AM,AN,AS,IN,AP,",
    "ASZ,AQ,AR,ASH,AT,DUSHENNA,KAD,AIN"]⟩,
  ⟨0x0859, "MANDAIC ", ["AFFRICATION MARK,VOCALIZATION MARK,GEMINATION MARK"]⟩,
  ⟨0x085E, "MANDAIC PUNCTUATION", [""]⟩,
  ⟨0x0860, "SYRIAC LETTER MALAYALAM ", ["NGA,JA,NYA,TTA,NNA,NNNA,BHA,RA,LLA,LLLA,SSA"]⟩,
  ⟨0x0870, "ARABIC LETTER ALEF WITH ", ["ATTACHED FATHA,ATTACHED TOP RIGHT FATHA,",
    "RIGHT MIDDLE STROKE,LEFT MIDDLE STROKE,ATTACHED KASRA,ATTACHED BOTTOM RIGHT KASRA,",
    "ATTACHED ROUND DOT ABOVE,ATTACHED RIGHT ROUND DOT,ATTACHED LEFT ROUND DOT,",
    "ATTACHED ROUND DOT BELOW"]⟩,
  ⟨0x087A, "ARABIC LETTER ALEF WITH ", ["DOT ABOVE,ATTACHED TOP RIGHT FATHA AND DOT ABOVE,",
    "RIGHT MIDDLE STROKE AND DOT ABOVE,ATTACHED BOTTOM RIGHT KASRA AND DOT ABOVE,",
    "ATTACHED TOP RIGHT FATHA AND LEFT RING,RIGHT MIDDLE STROKE AND LEFT RING,",
    "ATTACHED BOTTOM RIGHT KASRA AND LEFT RING,ATTACHED RIGHT HAMZA,ATTACHED LEFT HAMZA"]⟩,
  ⟨0x0883, "ARABIC TATWEEL WITH ", ["OVERSTRUCK HAMZA,OVERSTRUCK WAW,TWO DOTS BELOW"]⟩,
  ⟨0x0886, "ARABIC ", ["LETTER THIN YEH,BASELINE ROUND DOT,RAISED ROUND DOT,",
    "LETTER NOON WITH INVERTED SMALL V,LETTER HAH WITH INVERTED SMALL V BELOW,",
    "LETTER TAH WITH DOT BELOW,LETTER TAH WITH THREE DOTS BELOW,",
    "LETTER KEHEH WITH TWO DOTS VERTICALLY BELOW,VERTICAL TAIL"]⟩,
  ⟨0x0890, "ARABIC ", ["POUND MARK ABOVE,PIASTRE MARK ABOVE"]⟩,
  ⟨0x0897, "ARABIC ", ["PEPET,SMALL HIGH WORD AL-JUZ,SMALL LOW WORD ISHMAAM,",
    "SMALL LOW WORD IMAALA,SMALL LOW WORD TASHEEL,MADDA WAAJIB,SUPERSCRIPT ALEF MOKHASSAS,",
    "DOUBLED MADDA,HALF MADDA OVER MADDA,LETTER BEH WITH SMALL V BELOW,",
    "LETTER BEH WITH HAMZA ABOVE,LETTER JEEM WITH TWO DOTS ABOVE,",
    "LETTER TAH WITH TWO DOTS ABOVE"]⟩,
  ⟨0x08A4, "ARABIC LETTER ", ["FEH WITH DOT BELOW AND THREE DOTS ABOVE,QAF WITH DOT BELOW,",
    "LAM WITH DOUBLE BAR,MEEM WITH THREE DOTS ABOVE,YEH WITH TWO DOTS BELOW AND HAMZA ABOVE,",
    "YEH WITH TWO DOTS BELOW AND DOT ABOVE,REH WITH LOOP,WAW WITH DOT WITHIN,ROHINGYA YEH,",
    "LOW ALEF,DAL WITH THREE DOTS BELOW,SAD WITH THREE DOTS BELOW"]⟩,
  ⟨0x08B0, "ARABIC LETTER ", ["GAF WITH INVERTED STROKE,STRAIGHT WAW,",
    "ZAIN WITH INVERTED V ABOVE,AIN WITH THREE DOTS BELOW,KAF WITH DOT BELOW,",
    "QAF WITH DOT BELOW AND NO DOTS ABOVE,BEH WITH SMALL MEEM ABOVE,",
    "PEH WITH SMALL MEEM ABOVE,TEH WITH SMALL TEH ABOVE,REH WITH SMALL NOON ABOVE,",
    "YEH WITH TWO DOTS BELOW AND SMALL NOON ABOVE"]⟩,
  ⟨0x08BB, "ARABIC LETTER ", ["AFRICAN FEH,AFRICAN QAF,AFRICAN NOON,PEH WITH SMALL V,",
    "TEH WITH SMALL V,TTEH WITH SMALL V,TCHEH WITH SMALL V,KEHEH WITH SMALL V,",
    "GHAIN WITH THREE DOTS ABOVE,AFRICAN QAF WITH THREE DOTS ABOVE,",
    "JEEM WITH THREE DOTS ABOVE,JEEM WITH THREE DOTS BELOW,",
    "LAM WITH SMALL ARABIC LETTER TAH ABOVE,GRAF"]⟩,
  ⟨0x08C9, "ARABIC ", ["SMALL FARSI YEH,SMALL HIGH FARSI YEH,",
    "SMALL HIGH YEH BARREE WITH TWO DOTS BELOW,SMALL HIGH WORD SAH,SMALL HIGH ZAH,",
    "LARGE ROUND DOT ABOVE,LARGE ROUND DOT BELOW,SUKUN BELOW,LARGE CIRCLE BELOW,",
    "LARGE ROUND DOT INSIDE CIRCLE BELOW"]⟩,
  ⟨0x08D3, "ARABIC SMALL ", ["LOW WAW,HIGH WORD AR-RUB,HIGH SAD,HIGH AIN,HIGH QAF,",
    "HIGH NOON WITH KASRA,LOW NOON WITH KASRA,HIGH WORD ATH-THALATHA,HIGH WORD AS-SAJDA,",
    "HIGH WORD AN-NISF,HIGH WORD SAKTA,HIGH WORD QIF,HIGH WORD WAQFA,HIGH FOOTNOTE MARKER,",
    "HIGH SIGN SAFHA"]⟩,
  ⟨0x08E2, "ARABIC ", ["DISPUTED END OF AYAH,TURNED DAMMA BELOW,CURLY FATHA,CURLY DAMMA,",
    "CURLY KASRA,CURLY FATHATAN,CURLY DAMMATAN,CURLY KASRATAN,TONE ONE DOT ABOVE,",
    "TONE TWO DOTS ABOVE,TONE LOOP ABOVE,TONE ONE DOT BELOW,TONE TWO DOTS BELOW,",
    "TONE LOOP BELOW,OPEN FATHATAN,OPEN DAMMATAN,OPEN KASRATAN"]⟩,
  ⟨0x08F3, "ARABIC ", ["SMALL HIGH WAW,FATHA WITH RING,FATHA WITH DOT ABOVE,",
    "KASRA WITH DOT BELOW,LEFT ARROWHEAD ABOVE,RIGHT ARROWHEAD ABOVE,LEFT ARROWHEAD BELOW,",
    "RIGHT ARROWHEAD BELOW,DOUBLE RIGHT ARROWHEAD ABOVE,",
    "DOUBLE RIGHT ARROWHEAD ABOVE WITH DOT,RIGHT ARROWHEAD ABOVE WITH DOT,DAMMA WITH DOT,",
    "MARK SIDEWAYS NOON GHUNNA"]⟩]

end CodeChart.Name.Table
