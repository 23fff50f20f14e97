import CodeChart.Name.Run

/-!
# Names by run: legacy computing supplement and the musical systems

U+1CC00 to U+1D3FF.
-/

namespace CodeChart.Name.Table

/-- Runs for legacy computing supplement and the musical systems, by ascending first code. -/
def musical : Array Run := #[
  ⟨0x1CC00, "", ["UP-POINTING GO-KART,RIGHT-POINTING GO-KART,LEFT-POINTING STICK FIGURE,",
    "RIGHT-POINTING STICK FIGURE,DOWN-POINTING STICK FIGURE,LOWER HORIZONTAL RULER SEGMENT,",
    "RIGHT VERTICAL RULER SEGMENT,LOWER RIGHT RULER SEGMENT,ANTENNA"]⟩,
  ⟨0x1CC09, "", ["HORIZONTAL RESISTOR SEGMENT,VERTICAL RESISTOR SEGMENT,LEFT THIRD INDUCTOR,",
    "MIDDLE THIRD INDUCTOR,RIGHT THIRD INDUCTOR,LEFT-POINTING DIODE,RIGHT-POINTING DIODE,",
    "NPN TRANSISTOR,PNP TRANSISTOR,RECEPTACLE,HORIZONTAL CAPACITOR,VERTICAL CAPACITOR"]⟩,
  ⟨0x1CC15, "LOGIC GATE ", ["OR,AND,INVERTED INPUTS,INVERTED OUTPUT,BUFFER,",
    "BUFFER WITH INVERTED INPUT"]⟩,
  ⟨0x1CC1B, "BOX DRAWINGS LIGHT ", ["HORIZONTAL AND UPPER RIGHT,HORIZONTAL AND LOWER RIGHT,",
    "TOP AND UPPER LEFT,BOTTOM AND LOWER LEFT"]⟩,
  ⟨0x1CC1F, "BOX DRAWINGS DOUBLE DIAGONAL UPPER ", ["RIGHT TO LOWER LEFT,LEFT TO LOWER RIGHT"]⟩,
  ⟨0x1CC21, "SEPARATED BLOCK QUADRANT-", ["1,2,12,3,13,23,123,4,14,24,124,34,134,234,1234"]⟩,
  ⟨0x1CC30, "UPPER ", ["LEFT TWELFTH CIRCLE,CENTRE LEFT TWELFTH CIRCLE,",
    "CENTRE RIGHT TWELFTH CIRCLE,RIGHT TWELFTH CIRCLE,MIDDLE LEFT TWELFTH CIRCLE,",
    "LEFT QUARTER CIRCLE,RIGHT QUARTER CIRCLE,MIDDLE RIGHT TWELFTH CIRCLE"]⟩,
  ⟨0x1CC38, "LOWER ", ["MIDDLE LEFT TWELFTH CIRCLE,LEFT QUARTER CIRCLE,RIGHT QUARTER CIRCLE,",
    "MIDDLE RIGHT TWELFTH CIRCLE,LEFT TWELFTH CIRCLE,CENTRE LEFT TWELFTH CIRCLE,",
    "CENTRE RIGHT TWELFTH CIRCLE,RIGHT TWELFTH CIRCLE"]⟩,
  ⟨0x1CC40, "", ["SPARSE HORIZONTAL FILL,SPARSE VERTICAL FILL,ORTHOGONAL CROSSHATCH FILL,",
    "DIAGONAL CROSSHATCH FILL,DENSE VERTICAL FILL,DENSE HORIZONTAL FILL,",
    "SPECKLE FILL FRAME-1,SPECKLE FILL FRAME-2,LEFT-FACING BASSINET,RIGHT-FACING BASSINET,",
    "FLYING SAUCER WITH BEAMS,FLYING SAUCER WITHOUT BEAMS"]⟩,
  ⟨0x1CC4C, "ALIEN ", ["MONSTER OPEN JAWS,MONSTER CLOSED JAWS,SQUID OPEN TENTACLES,",
    "SQUID CLOSED TENTACLES,CRAB STEPPING RIGHT,CRAB STEPPING LEFT,SPIDER CROUCHING,",
    "SPIDER SPREAD,MONSTER STEP-1,MONSTER STEP-2"]⟩,
  ⟨0x1CC56, "", ["LEFT-POINTING ROCKET SHIP,UP-POINTING ROCKET SHIP,",
    "RIGHT-POINTING ROCKET SHIP,DOWN-POINTING ROCKET SHIP,TOP HALF LEFT-FACING ROBOT,",
    "TOP HALF FORWARD-FACING ROBOT,TOP HALF RIGHT-FACING ROBOT"]⟩,
  ⟨0x1CC5D, "BOTTOM HALF ", ["LEFT-FACING ROBOT,FORWARD-FACING ROBOT,RIGHT-FACING ROBOT"]⟩,
  ⟨0x1CC60, "", ["LEFT-POINTING ATOMIC BOMB,UP-POINTING ATOMIC BOMB,",
    "RIGHT-POINTING ATOMIC BOMB,DOWN-POINTING ATOMIC BOMB,MUSHROOM CLOUD,",
    "LEFT-POINTING RIFLE,UP-POINTING RIFLE,RIGHT-POINTING RIFLE,DOWN-POINTING RIFLE,",
    "EIGHT RAYS INWARD,EIGHT RAYS OUTWARD"]⟩,
  ⟨0x1CC6B, "BLACK LARGE CIRCLE MINUS ", ["LEFT QUARTER SECTION,UPPER QUARTER SECTION,",
    "RIGHT QUARTER SECTION,LOWER QUARTER SECTION"]⟩,
  ⟨0x1CC6F, "", ["BLACK NEUTRAL FACE,LEFT-FACING SNAKE HEAD WITH OPEN MOUTH,",
    "UP-FACING SNAKE HEAD WITH OPEN MOUTH,RIGHT-FACING SNAKE HEAD WITH OPEN MOUTH,",
    "DOWN-FACING SNAKE HEAD WITH OPEN MOUTH"]⟩,
  ⟨0x1CC74, "", ["LEFT-FACING SNAKE HEAD WITH CLOSED MOUTH,",
    "UP-FACING SNAKE HEAD WITH CLOSED MOUTH,RIGHT-FACING SNAKE HEAD WITH CLOSED MOUTH,",
    "DOWN-FACING SNAKE HEAD WITH CLOSED MOUTH,LEFT-POINTING ENERGY WAVE,",
    "UP-POINTING ENERGY WAVE,RIGHT-POINTING ENERGY WAVE,DOWN-POINTING ENERGY WAVE"]⟩,
  ⟨0x1CC7C, "SQUARE SPIRAL FROM ", ["TOP LEFT,TOP RIGHT,BOTTOM RIGHT,BOTTOM LEFT"]⟩,
  ⟨0x1CC80, "STRIPED ", ["LEFT-POINTING TRIANGLE,UP-POINTING TRIANGLE,RIGHT-POINTING TRIANGLE,",
    "DOWN-POINTING TRIANGLE"]⟩,
  ⟨0x1CC84, "", ["VERTICAL LADDER,HORIZONTAL LADDER,WHITE LOWER LEFT POINTER,",
    "WHITE LOWER RIGHT POINTER,TWO RINGS ALIGNED HORIZONTALLY"]⟩,
  ⟨0x1CC89, "SQUARE FOUR CORNER ", ["SALTIRES,DIAGONALS,BLACK TRIANGLES"]⟩,
  ⟨0x1CC8C, "", ["SQUARE APERTURE,INVERSE BLACK DIAMOND,",
    "LEFT AND UPPER ONE EIGHTH BLOCK CONTAINING BLACK SMALL SQUARE,",
    "INVERSE BLACK SMALL SQUARE,VERTICAL LINE WITH FOUR TICK MARKS,",
    "HORIZONTAL LINE WITH FOUR TICK MARKS,LEFT-FACING FISH,RIGHT-FACING FISH,",
    "LEFT-FACING FISH WITH OPEN MOUTH,RIGHT-FACING FISH WITH OPEN MOUTH"]⟩,
  ⟨0x1CC96, "", ["FLAPPING BIRD,LEFT-POINTING RACING CAR,UP-POINTING RACING CAR,",
    "RIGHT-POINTING RACING CAR,DOWN-POINTING RACING CAR,HORIZONTAL RACING CAR,",
    "VERTICAL RACING CAR,VERTICAL GO-KART,LEFT-POINTING TANK,RIGHT-POINTING TANK,",
    "LEFT-POINTING ROCKET BOOSTER,RIGHT-POINTING ROCKET BOOSTER"]⟩,
  ⟨0x1CCA2, "", ["LEFT-POINTING ROLLER COASTER CAR,RIGHT-POINTING ROLLER COASTER CAR,",
    "LEFT HALF FLYING SAUCER,RIGHT HALF FLYING SAUCER,",
    "UPPER LEFT QUADRANT FACE WITH OPEN EYES,UPPER RIGHT QUADRANT FACE WITH OPEN EYES,",
    "UPPER LEFT QUADRANT FACE WITH CLOSED EYES,UPPER RIGHT QUADRANT FACE WITH CLOSED EYES"]⟩,
  ⟨0x1CCAA, "LOWER ", ["LEFT QUADRANT SMILING FACE,RIGHT QUADRANT SMILING FACE,",
    "LEFT QUADRANT NEUTRAL FACE,RIGHT QUADRANT NEUTRAL FACE,",
    "LEFT QUADRANT FACE WITH OPEN MOUTH,RIGHT QUADRANT FACE WITH OPEN MOUTH,",
    "LEFT QUADRANT FROWNING FACE,RIGHT QUADRANT FROWNING FACE"]⟩,
  ⟨0x1CCB2, "UPPER ", ["LEFT QUADRANT TELEVISION,RIGHT QUADRANT TELEVISION"]⟩,
  ⟨0x1CCB4, "", ["LOWER LEFT QUADRANT TELEVISION,LOWER RIGHT QUADRANT TELEVISION,",
    "UPPER LEFT QUADRANT MICROCOMPUTER,UPPER RIGHT QUADRANT MICROCOMPUTER,",
    "LOWER LEFT QUADRANT MICROCOMPUTER,LOWER RIGHT QUADRANT MICROCOMPUTER,",
    "UPPER LEFT QUADRANT CHESS KING,UPPER RIGHT QUADRANT CHESS KING"]⟩,
  ⟨0x1CCBC, "", ["LOWER LEFT QUADRANT CHESS KING,LOWER RIGHT QUADRANT CHESS KING,",
    "UPPER LEFT QUADRANT CHESS QUEEN,UPPER RIGHT QUADRANT CHESS QUEEN,",
    "LOWER LEFT QUADRANT CHESS QUEEN,LOWER RIGHT QUADRANT CHESS QUEEN,",
    "UPPER LEFT QUADRANT CHESS ROOK,UPPER RIGHT QUADRANT CHESS ROOK,",
    "LOWER LEFT QUADRANT CHESS ROOK"]⟩,
  ⟨0x1CCC5, "", ["LOWER RIGHT QUADRANT CHESS ROOK,UPPER LEFT QUADRANT CHESS BISHOP,",
    "UPPER RIGHT QUADRANT CHESS BISHOP,LOWER LEFT QUADRANT CHESS BISHOP,",
    "LOWER RIGHT QUADRANT CHESS BISHOP,UPPER LEFT QUADRANT CHESS KNIGHT,",
    "UPPER RIGHT QUADRANT CHESS KNIGHT,LOWER LEFT QUADRANT CHESS KNIGHT,",
    "LOWER RIGHT QUADRANT CHESS KNIGHT"]⟩,
  ⟨0x1CCCE, "", ["UPPER LEFT QUADRANT CHESS PAWN,UPPER RIGHT QUADRANT CHESS PAWN,",
    "LOWER LEFT QUADRANT CHESS PAWN,LOWER RIGHT QUADRANT CHESS PAWN,",
    "UPPER LEFT QUADRANT STANDING KNIGHT,UPPER RIGHT QUADRANT STANDING KNIGHT,",
    "LOWER LEFT QUADRANT STANDING KNIGHT,LOWER RIGHT QUADRANT STANDING KNIGHT"]⟩,
  ⟨0x1CCD6, "OUTLINED LATIN CAPITAL LETTER ", ["A,B,C,D,E,F,G,H,I,J,K,L,M,N,O,P,Q,R,S,T,U,V,W,",
    "X,Y,Z"]⟩,
  ⟨0x1CCF0, "OUTLINED DIGIT ", ["ZERO,ONE,TWO,THREE,FOUR,FIVE,SIX,SEVEN,EIGHT,NINE"]⟩,
  ⟨0x1CD00, "BLOCK OCTANT-", ["3,23,123,4,14,124,34,134,234,5,15,25,125,135,235,1235,45,145,",
    "245,1245,345,1345,2345,12345,6,16,26,126,36,136,236,1236,146,246,1246,346,1346,2346,",
    "12346,56,156,256,1256,356,1356,2356,12356,456,1456,2456,12456,3456,13456,23456,17,27,",
    "127,37,137,237,1237,47,147,247,1247,347"]⟩,
  ⟨0x1CD42, "BLOCK OCTANT-", ["1347,2347,12347,157,257,1257,357,2357,12357,457,1457,12457,",
    "3457,13457,23457,67,167,267,1267,367,1367,2367,12367,467,1467,2467,12467,3467,13467,",
    "23467,123467,567,1567,2567,12567,3567,13567,23567,123567,4567,14567,24567,124567,34567,",
    "134567,234567,1234567,18,28,128,38,138,238,1238,48,148,248,1248,348"]⟩,
  ⟨0x1CD7D, "BLOCK OCTANT-", ["1348,2348,12348,58,158,258,1258,358,1358,2358,12358,458,1458,",
    "2458,12458,3458,13458,23458,123458,168,268,1268,368,2368,12368,468,1468,12468,3468,",
    "13468,23468,568,1568,2568,12568,3568,13568,23568,123568,4568,14568,24568,124568,34568,",
    "134568,234568,1234568,178,278,1278,378,1378,2378,12378,478,1478,2478"]⟩,
  ⟨0x1CDB6, "BLOCK OCTANT-", ["12478,3478,13478,23478,123478,578,1578,2578,12578,3578,13578,",
    "23578,123578,4578,14578,24578,124578,34578,134578,234578,1234578,678,1678,2678,12678,",
    "3678,13678,23678,123678,4678,14678,24678,124678,34678,134678,234678,1234678,15678,",
    "25678,125678,35678,235678,1235678,45678,145678,1245678,1345678,2345678"]⟩,
  ⟨0x1CDE6, "", ["TOP HALF STANDING PERSON,BOTTOM HALF STANDING PERSON,",
    "TOP HALF RIGHT-FACING RUNNER FRAME-1"]⟩,
  ⟨0x1CDE9, "", ["BOTTOM HALF RIGHT-FACING RUNNER FRAME-1,",
    "TOP HALF RIGHT-FACING RUNNER FRAME-2,BOTTOM HALF RIGHT-FACING RUNNER FRAME-2,",
    "TOP HALF LEFT-FACING RUNNER FRAME-1,BOTTOM HALF LEFT-FACING RUNNER FRAME-1,",
    "TOP HALF LEFT-FACING RUNNER FRAME-2,BOTTOM HALF LEFT-FACING RUNNER FRAME-2,",
    "TOP HALF FORWARD-FACING RUNNER"]⟩,
  ⟨0x1CDF1, "BOTTOM HALF FORWARD-FACING RUNNER FRAME-", ["1,2,3,4"]⟩,
  ⟨0x1CDF5, "", ["MOON LANDER,TOP HALF FLAILING ROBOT FRAME-1,TOP HALF FLAILING ROBOT FRAME-2,",
    "DOWN-POINTING AIRPLANE,LEFT-POINTING AIRPLANE,SMALL UP-POINTING AIRPLANE,",
    "UP-POINTING FROG,DOWN-POINTING FROG"]⟩,
  ⟨0x1CDFD, "EXPLOSION FRAME-", ["1,2,3"]⟩,
  ⟨0x1CE00, "", ["RIGHT HALF AND LEFT HALF WHITE CIRCLE,",
    "LOWER HALF AND UPPER HALF WHITE CIRCLE,EXPLOSION AT HORIZON,",
    "UPPER HALF HEAVY WHITE SQUARE,LOWER HALF HEAVY WHITE SQUARE,",
    "HEAVY WHITE SQUARE CONTAINING BLACK VERY SMALL SQUARE,",
    "WHITE VERTICAL RECTANGLE WITH HORIZONTAL BAR,",
    "TOP LEFT BLACK LEFT-POINTING SMALL TRIANGLE"]⟩,
  ⟨0x1CE08, "", ["FUNNEL,",
    "BOX DRAWINGS DOUBLE DIAGONAL LOWER LEFT TO MIDDLE CENTRE TO LOWER RIGHT,",
    "BOX DRAWINGS DOUBLE DIAGONAL UPPER LEFT TO MIDDLE CENTRE TO UPPER RIGHT,",
    "LEFT HALF WHITE ELLIPSE,RIGHT HALF WHITE ELLIPSE,LEFT HALF TRIPLE DASH HORIZONTAL,",
    "RIGHT HALF TRIPLE DASH HORIZONTAL"]⟩,
  ⟨0x1CE0F, "", ["HORIZONTAL LINE WITH TICK MARK,",
    "LEFT HALF HORIZONTAL LINE WITH THREE TICK MARKS,",
    "RIGHT HALF HORIZONTAL LINE WITH THREE TICK MARKS,HORIZONTAL LINE WITH THREE TICK MARKS,",
    "LOWER HALF VERTICAL LINE WITH THREE TICK MARKS,",
    "UPPER HALF VERTICAL LINE WITH THREE TICK MARKS,VERTICAL LINE WITH THREE TICK MARKS"]⟩,
  ⟨0x1CE16, "BOX DRAWINGS LIGHT VERTICAL AND ", ["TOP RIGHT,BOTTOM RIGHT,TOP LEFT,BOTTOM LEFT"]⟩,
  ⟨0x1CE1A, "LARGE TYPE PIECE ", ["UPPER LEFT ARC,UPPER LEFT CORNER,UPPER TERMINAL,",
    "UPPER LEFT CROTCH,LEFT ARM,CROSSBAR,CROSSBAR WITH LOWER STEM,UPPER HALF VERTEX OF M,",
    "DIAGONAL LOWER LEFT,SHORT UPPER TERMINAL,UPPER RIGHT ARC,RIGHT ARM,UPPER RIGHT CROTCH"]⟩,
  ⟨0x1CE27, "LARGE TYPE PIECE ", ["UPPER RIGHT CORNER,STEM WITH RIGHT CROSSBAR,STEM,",
    "DIAGONAL UPPER RIGHT AND LOWER RIGHT,DIAGONAL UPPER RIGHT,DIAGONAL LOWER RIGHT,",
    "SHORT LOWER TERMINAL,LOWER LEFT AND UPPER LEFT ARC,CENTRE OF K,LOWER HALF VERTEX OF M,",
    "UPPER HALF VERTEX OF W,CENTRE OF X,CENTRE OF Y,CENTRE OF Z WITH CROSSBAR"]⟩,
  ⟨0x1CE35, "LARGE TYPE PIECE ", ["RAISED UPPER LEFT ARC,STEM WITH LEFT CROSSBAR,",
    "LOWER RIGHT AND UPPER RIGHT ARC,DIAGONAL UPPER LEFT AND LOWER LEFT,",
    "STEM WITH LEFT JOINT,STEM WITH CROSSBAR,DIAGONAL UPPER LEFT,LOWER TERMINAL,",
    "LOWER LEFT CORNER,LOWER LEFT ARC,LOWER LEFT CROTCH,CROSSBAR WITH UPPER STEM,",
    "VERTEX OF V,LOWER HALF VERTEX OF W"]⟩,
  ⟨0x1CE43, "LARGE TYPE PIECE LOWER RIGHT ", ["ARC,CORNER,ARC WITH TAIL,CROTCH"]⟩,
  ⟨0x1CE47, "LARGE TYPE PIECE STEM-", ["45,2345,4,34,234,1234,3,23,2,12"]⟩,
  ⟨0x1CE51, "SEPARATED BLOCK SEXTANT-", ["1,2,12,3,13,23,123,4,14,24,124,34,134,234,1234,5,15,",
    "25,125,35,135,235,1235,45,145,245,1245,345,1345,2345,12345,6,16,26,126,36,136,236,1236,",
    "46,146,246,1246,346,1346,2346,12346,56,156,256,1256,356,1356,2356,12356,456,1456,2456,",
    "12456,3456,13456,23456,123456"]⟩,
  ⟨0x1CE90, "UPPER ", ["LEFT ONE SIXTEENTH BLOCK,CENTRE LEFT ONE SIXTEENTH BLOCK,",
    "CENTRE RIGHT ONE SIXTEENTH BLOCK,RIGHT ONE SIXTEENTH BLOCK,",
    "MIDDLE LEFT ONE SIXTEENTH BLOCK,MIDDLE CENTRE LEFT ONE SIXTEENTH BLOCK,",
    "MIDDLE CENTRE RIGHT ONE SIXTEENTH BLOCK,MIDDLE RIGHT ONE SIXTEENTH BLOCK"]⟩,
  ⟨0x1CE98, "LOWER ", ["MIDDLE LEFT ONE SIXTEENTH BLOCK,",
    "MIDDLE CENTRE LEFT ONE SIXTEENTH BLOCK,MIDDLE CENTRE RIGHT ONE SIXTEENTH BLOCK,",
    "MIDDLE RIGHT ONE SIXTEENTH BLOCK,LEFT ONE SIXTEENTH BLOCK,",
    "CENTRE LEFT ONE SIXTEENTH BLOCK,CENTRE RIGHT ONE SIXTEENTH BLOCK,",
    "RIGHT ONE SIXTEENTH BLOCK"]⟩,
  ⟨0x1CEA0, "", ["RIGHT HALF LOWER ONE QUARTER BLOCK,",
    "RIGHT THREE QUARTERS LOWER ONE QUARTER BLOCK,",
    "LEFT THREE QUARTERS LOWER ONE QUARTER BLOCK,LEFT HALF LOWER ONE QUARTER BLOCK,",
    "LOWER HALF LEFT ONE QUARTER BLOCK"]⟩,
  ⟨0x1CEA5, "", ["LOWER THREE QUARTERS LEFT ONE QUARTER BLOCK,",
    "UPPER THREE QUARTERS LEFT ONE QUARTER BLOCK,UPPER HALF LEFT ONE QUARTER BLOCK,",
    "LEFT HALF UPPER ONE QUARTER BLOCK,LEFT THREE QUARTERS UPPER ONE QUARTER BLOCK,",
    "RIGHT THREE QUARTERS UPPER ONE QUARTER BLOCK,RIGHT HALF UPPER ONE QUARTER BLOCK"]⟩,
  ⟨0x1CEAC, "", ["UPPER HALF RIGHT ONE QUARTER BLOCK,",
    "UPPER THREE QUARTERS RIGHT ONE QUARTER BLOCK,",
    "LOWER THREE QUARTERS RIGHT ONE QUARTER BLOCK,LOWER HALF RIGHT ONE QUARTER BLOCK,",
    "HORIZONTAL ZIGZAG LINE,KEYHOLE,",
    "OLD PERSONAL COMPUTER WITH MONITOR IN PORTRAIT ORIENTATION,BLACK RIGHT TRIANGLE CARET"]⟩,
  ⟨0x1CF00, "ZNAMENNY COMBINING MARK ", ["GORAZDO NIZKO S KRYZHEM ON LEFT,",
    "NIZKO S KRYZHEM ON LEFT,TSATA ON LEFT,GORAZDO NIZKO ON LEFT,NIZKO ON LEFT,",
    "SREDNE ON LEFT,MALO POVYSHE ON LEFT,POVYSHE ON LEFT,VYSOKO ON LEFT,",
    "MALO POVYSHE S KHOKHLOM ON LEFT"]⟩,
  ⟨0x1CF0A, "ZNAMENNY COMBINING MARK ", ["POVYSHE S KHOKHLOM ON LEFT,",
    "VYSOKO S KHOKHLOM ON LEFT,GORAZDO NIZKO S KRYZHEM ON RIGHT,NIZKO S KRYZHEM ON RIGHT,",
    "TSATA ON RIGHT,GORAZDO NIZKO ON RIGHT,NIZKO ON RIGHT,SREDNE ON RIGHT,",
    "MALO POVYSHE ON RIGHT,POVYSHE ON RIGHT,VYSOKO ON RIGHT,",
    "MALO POVYSHE S KHOKHLOM ON RIGHT,POVYSHE S KHOKHLOM ON RIGHT"]⟩,
  ⟨0x1CF17, "ZNAMENNY COMBINING MARK ", ["VYSOKO S KHOKHLOM ON RIGHT,TSATA S KRYZHEM,",
    "MALO POVYSHE S KRYZHEM,STRANNO MALO POVYSHE,POVYSHE S KRYZHEM,POVYSHE STRANNO,",
    "VYSOKO S KRYZHEM,MALO POVYSHE STRANNO,GORAZDO VYSOKO,ZELO,ON,RAVNO,TIKHAYA,BORZAYA,",
    "UDARKA,PODVERTKA,LOMKA,KUPNAYA,KACHKA,ZEVOK,SKOBA,RAZSEKA,KRYZH ON LEFT"]⟩,
  ⟨0x1CF30, "ZNAMENNY COMBINING TONAL RANGE MARK ", ["MRACHNO,SVETLO,TRESVETLO"]⟩,
  ⟨0x1CF33, "ZNAMENNY COMBINING MARK ", ["ZADERZHKA,DEMESTVENNY ZADERZHKA,OTSECHKA,PODCHASHIE,",
    "PODCHASHIE WITH VERTICAL STROKE,CHASHKA,CHASHKA POLNAYA,OBLACHKO,SOROCHYA NOZHKA,",
    "TOCHKA,DVOETOCHIE"]⟩,
  ⟨0x1CF3E, "ZNAMENNY COMBINING ", ["ATTACHING VERTICAL OMET,MARK CURVED OMET,MARK KRYZH,",
    "LOWER TONAL RANGE INDICATOR"]⟩,
  ⟨0x1CF42, "ZNAMENNY PRIZNAK MODIFIER ", ["LEVEL-2,LEVEL-3,DIRECTION FLIP,KRYZH,ROG"]⟩,
  ⟨0x1CF50, "ZNAMENNY NEUME ", ["KRYUK,KRYUK TIKHY,PARAKLIT,DVA V CHELNU,KLYUCH,ZANOZHEK,",
    "STOPITSA,STOPITSA S OCHKOM,PEREVODKA,PEREVODKA NEPOSTOYANNAYA,",
    "STOPITSA WITH SOROCHYA NOZHKA,CHELYUSTKA,PALKA,ZAPYATAYA"]⟩,
  ⟨0x1CF5E, "ZNAMENNY NEUME GOLUBCHIK ", ["BORZY,TIKHY,MRACHNY,SVETLY,TRESVETLY"]⟩,
  ⟨0x1CF63, "ZNAMENNY NEUME VRAKHIYA ", ["PROSTAYA,MRACHNAYA,SVETLAYA,TRESVETLAYA,",
    "KLYUCHEVAYA PROSTAYA,KLYUCHEVAYA MRACHNAYA,KLYUCHEVAYA SVETLAYA,KLYUCHEVAYA TRESVETLAYA"]⟩,
  ⟨0x1CF6B, "ZNAMENNY NEUME ", ["DOUBLE ZAPYATAYA,REVERSED CHELYUSTKA,DERBITSA,KHAMILO,",
    "CHASHKA,PODCHASHIE,SKAMEYTSA MRACHNAYA,SKAMEYTSA SVETLAYA,SKAMEYTSA TRESVETLAYA,",
    "SKAMEYTSA TIKHAYA,DEMESTVENNY KLYUCH,SKAMEYTSA KLYUCHEVAYA SVETLAYA,",
    "SKAMEYTSA KLYUCHENEPOSTOYANNAYA,SKAMEYTSA KLYUCHEVAYA TIKHAYA"]⟩,
  ⟨0x1CF79, "ZNAMENNY NEUME SKAMEYTSA DVOECHELNAYA ", ["PROSTAYA,SVETLAYA,NEPOSTOYANNAYA,",
    "KLYUCHEVAYA"]⟩,
  ⟨0x1CF7D, "ZNAMENNY NEUME ", ["SLOZHITIE,SLOZHITIE S ZAPYATOY,SLOZHITIE ZAKRYTOE,",
    "SLOZHITIE S KRYZHEM,KRYZH,ROG,FITA,KOBYLA,ZMEYTSA,STATYA"]⟩,
  ⟨0x1CF87, "ZNAMENNY NEUME STATYA ", ["S ZAPYATOY,S KRYZHEM,S ZAPYATOY I KRYZHEM,",
    "S KRYZHEM I ZAPYATOY,ZAKRYTAYA,ZAKRYTAYA S ZAPYATOY,S ROGOM,S DVUMYA ZAPYATYMI,",
    "S ZAPYATOY I PODCHASHIEM"]⟩,
  ⟨0x1CF90, "ZNAMENNY NEUME ", ["POLKULIZMY,STATYA NEPOSTOYANNAYA"]⟩,
  ⟨0x1CF92, "ZNAMENNY NEUME STRELA ", ["PROSTAYA,MRACHNOTIKHAYA,KRYZHEVAYA,POLUPOVODNAYA,",
    "POVODNAYA,NEPOSTOYANNAYA,KLYUCHEPOVODNAYA,KLYUCHENEPOSTOYANNAYA"]⟩,
  ⟨0x1CF9A, "ZNAMENNY NEUME STRELA ", ["TIKHAYA PUTNAYA,DVOECHELNAYA,DVOECHELNOKRYZHEVAYA,",
    "DVOECHELNOPOVODNAYA,DVOECHELNAYA KLYUCHEVAYA,DVOECHELNOPOVODNAYA KLYUCHEVAYA,",
    "GROMNAYA WITH SINGLE ZAPYATAYA,GROMOPOVODNAYA WITH SINGLE ZAPYATAYA,GROMNAYA,",
    "GROMOPOVODNAYA,GROMOPOVODNAYA WITH DOUBLE ZAPYATAYA,GROMOKRYZHEVAYA,",
    "GROMOKRYZHEVAYA POVODNAYA"]⟩,
  ⟨0x1CFA7, "ZNAMENNY NEUME ", ["MECHIK,MECHIK POVODNY,MECHIK KLYUCHEVOY,",
    "MECHIK KLYUCHEPOVODNY,MECHIK KLYUCHENEPOSTOYANNY,STRELA TRYASOGLASNAYA,",
    "STRELA TRYASOPOVODNAYA,STRELA TRYASOSTRELNAYA,OSOKA,OSOKA SVETLAYA,OSOKA TRESVETLAYA,",
    "OSOKA KRYUKOVAYA SVETLAYA,OSOKA KLYUCHEVAYA SVETLAYA,OSOKA KLYUCHEVAYA NEPOSTOYANNAYA,",
    "STRELA KRYUKOVAYA"]⟩,
  ⟨0x1CFB6, "ZNAMENNY NEUME STRELA KRYUKOVAYA ", ["POVODNAYA,GROMNAYA WITH SINGLE ZAPYATAYA,",
    "GROMOPOVODNAYA WITH SINGLE ZAPYATAYA,GROMNAYA,GROMOPOVODNAYA,",
    "GROMOPOVODNAYA WITH DOUBLE ZAPYATAYA,GROMOKRYZHEVAYA,GROMOKRYZHEVAYA POVODNAYA,TRYASKA"]⟩,
  ⟨0x1CFBF, "ZNAMENNY NEUME ", ["KUFISMA,OBLAKO,DUDA,NEMKA,PAUK"]⟩,
  ⟨0x1D000, "BYZANTINE MUSICAL SYMBOL ", ["PSILI,DASEIA,PERISPOMENI,OXEIA EKFONITIKON,",
    "OXEIA DIPLI,VAREIA EKFONITIKON,VAREIA DIPLI,KATHISTI,SYRMATIKI,PARAKLITIKI,YPOKRISIS,",
    "YPOKRISIS DIPLI,KREMASTI,APESO EKFONITIKON,EXO EKFONITIKON,TELEIA,KENTIMATA,APOSTROFOS,",
    "APOSTROFOS DIPLI,SYNEVMA,THITA,OLIGON ARCHAION"]⟩,
  ⟨0x1D016, "BYZANTINE MUSICAL SYMBOL ", ["GORGON ARCHAION,PSILON,CHAMILON,VATHY,",
    "ISON ARCHAION,KENTIMA ARCHAION,KENTIMATA ARCHAION,SAXIMATA,PARICHON,STAVROS APODEXIA,",
    "OXEIAI ARCHAION,VAREIAI ARCHAION,APODERMA ARCHAION,APOTHEMA,KLASMA,REVMA,",
    "PIASMA ARCHAION,TINAGMA,ANATRICHISMA,SEISMA,SYNAGMA ARCHAION,SYNAGMA META STAVROU,",
    "OYRANISMA ARCHAION"]⟩,
  ⟨0x1D02D, "BYZANTINE MUSICAL SYMBOL ", ["THEMA,LEMOI,DYO,TRIA,TESSERA,KRATIMATA,",
    "APESO EXO NEO,FTHORA ARCHAION,IMIFTHORA,TROMIKON ARCHAION,KATAVA TROMIKON,PELASTON,",
    "PSIFISTON,KONTEVMA,CHOREVMA ARCHAION,RAPISMA,PARAKALESMA ARCHAION,PARAKLITIKI ARCHAION,",
    "ICHADIN,NANA,PETASMA,KONTEVMA ALLO,TROMIKON ALLO,STRAGGISMATA,GRONTHISMATA,ISON NEO"]⟩,
  ⟨0x1D047, "BYZANTINE MUSICAL SYMBOL ", ["OLIGON NEO,OXEIA NEO,PETASTI,KOUFISMA,",
    "PETASTOKOUFISMA,KRATIMOKOUFISMA,PELASTON NEO,KENTIMATA NEO ANO,KENTIMA NEO ANO,YPSILI,",
    "APOSTROFOS NEO,APOSTROFOI SYNDESMOS NEO,YPORROI,KRATIMOYPORROON,ELAFRON,CHAMILI,",
    "MIKRON ISON,VAREIA NEO,PIASMA NEO,PSIFISTON NEO,OMALON,ANTIKENOMA,LYGISMA,",
    "PARAKLITIKI NEO"]⟩,
  ⟨0x1D05F, "BYZANTINE MUSICAL SYMBOL ", ["PARAKALESMA NEO,ETERON PARAKALESMA,KYLISMA,",
    "ANTIKENOKYLISMA,TROMIKON NEO,EKSTREPTON,SYNAGMA NEO,SYRMA,CHOREVMA NEO,EPEGERMA,",
    "SEISMA NEO,XIRON KLASMA,TROMIKOPSIFISTON,PSIFISTOLYGISMA,TROMIKOLYGISMA,",
    "TROMIKOPARAKALESMA,PSIFISTOPARAKALESMA,TROMIKOSYNAGMA,PSIFISTOSYNAGMA,GORGOSYNTHETON,",
    "ARGOSYNTHETON"]⟩,
  ⟨0x1D074, "BYZANTINE MUSICAL SYMBOL ", ["ETERON ARGOSYNTHETON,OYRANISMA NEO,THEMATISMOS ESO,",
    "THEMATISMOS EXO,THEMA APLOUN,THES KAI APOTHES,KATAVASMA,ENDOFONON,YFEN KATO,YFEN ANO,",
    "STAVROS,KLASMA ANO,DIPLI ARCHAION,KRATIMA ARCHAION,KRATIMA ALLO,KRATIMA NEO,",
    "APODERMA NEO,APLI,DIPLI,TRIPLI,TETRAPLI,KORONIS,LEIMMA ENOS CHRONOU,LEIMMA DYO CHRONON"]⟩,
  ⟨0x1D08C, "BYZANTINE MUSICAL SYMBOL ", ["LEIMMA TRION CHRONON,LEIMMA TESSARON CHRONON,",
    "LEIMMA IMISEOS CHRONOU,GORGON NEO ANO,GORGON PARESTIGMENON ARISTERA,",
    "GORGON PARESTIGMENON DEXIA,DIGORGON,DIGORGON PARESTIGMENON ARISTERA KATO,",
    "DIGORGON PARESTIGMENON ARISTERA ANO,DIGORGON PARESTIGMENON DEXIA,TRIGORGON,ARGON,",
    "IMIDIARGON,DIARGON"]⟩,
  ⟨0x1D09A, "BYZANTINE MUSICAL SYMBOL AGOGI ", ["POLI ARGI,ARGOTERI,ARGI,METRIA,MESI,GORGI,",
    "GORGOTERI,POLI GORGI"]⟩,
  ⟨0x1D0A2, "BYZANTINE MUSICAL SYMBOL MARTYRIA ", ["PROTOS ICHOS,ALLI PROTOS ICHOS,",
    "DEYTEROS ICHOS,ALLI DEYTEROS ICHOS,TRITOS ICHOS,TRIFONIAS,TETARTOS ICHOS,",
    "TETARTOS LEGETOS ICHOS,LEGETOS ICHOS,PLAGIOS ICHOS"]⟩,
  ⟨0x1D0AC, "BYZANTINE MUSICAL SYMBOL ", ["ISAKIA TELOUS ICHIMATOS,",
    "APOSTROFOI TELOUS ICHIMATOS,FANEROSIS TETRAFONIAS,FANEROSIS MONOFONIAS,",
    "FANEROSIS DIFONIAS,MARTYRIA VARYS ICHOS,MARTYRIA PROTOVARYS ICHOS,",
    "MARTYRIA PLAGIOS TETARTOS ICHOS,GORTHMIKON N APLOUN,GORTHMIKON N DIPLOUN,",
    "ENARXIS KAI FTHORA VOU,IMIFONON,IMIFTHORON"]⟩,
  ⟨0x1D0B9, "BYZANTINE MUSICAL SYMBOL FTHORA ", ["ARCHAION DEYTEROU ICHOU,DIATONIKI PA,",
    "DIATONIKI NANA,NAOS ICHOS,DIATONIKI DI,SKLIRON DIATONON DI,DIATONIKI KE,DIATONIKI ZO,",
    "DIATONIKI NI KATO,DIATONIKI NI ANO,MALAKON CHROMA DIFONIAS,MALAKON CHROMA MONOFONIAS"]⟩,
  ⟨0x1D0C5, "BYZANTINE MUSICAL SYMBOL ", ["FHTORA SKLIRON CHROMA VASIS,",
    "FTHORA SKLIRON CHROMA SYNAFI,FTHORA NENANO,CHROA ZYGOS,CHROA KLITON,CHROA SPATHI,",
    "FTHORA I YFESIS TETARTIMORION,FTHORA ENARMONIOS ANTIFONIA,YFESIS TRITIMORION,",
    "DIESIS TRITIMORION,DIESIS TETARTIMORION,DIESIS APLI DYO DODEKATA,",
    "DIESIS MONOGRAMMOS TESSERA DODEKATA"]⟩,
  ⟨0x1D0D2, "BYZANTINE MUSICAL SYMBOL ", ["DIESIS DIGRAMMOS EX DODEKATA,",
    "DIESIS TRIGRAMMOS OKTO DODEKATA,YFESIS APLI DYO DODEKATA,",
    "YFESIS MONOGRAMMOS TESSERA DODEKATA,YFESIS DIGRAMMOS EX DODEKATA,",
    "YFESIS TRIGRAMMOS OKTO DODEKATA,GENIKI DIESIS,GENIKI YFESIS,DIASTOLI APLI MIKRI,",
    "DIASTOLI APLI MEGALI,DIASTOLI DIPLI,DIASTOLI THESEOS"]⟩,
  ⟨0x1D0DE, "BYZANTINE MUSICAL SYMBOL SIMANSIS ", ["THESEOS,THESEOS DISIMOU,THESEOS TRISIMOU,",
    "THESEOS TETRASIMOU,ARSEOS,ARSEOS DISIMOU,ARSEOS TRISIMOU,ARSEOS TETRASIMOU"]⟩,
  ⟨0x1D0E6, "BYZANTINE MUSICAL SYMBOL ", ["DIGRAMMA GG,DIFTOGGOS OU,STIGMA,ARKTIKO PA,",
    "ARKTIKO VOU,ARKTIKO GA,ARKTIKO DI,ARKTIKO KE,ARKTIKO ZO,ARKTIKO NI,KENTIMATA NEO MESO,",
    "KENTIMA NEO MESO,KENTIMATA NEO KATO,KENTIMA NEO KATO,KLASMA KATO,GORGON NEO KATO"]⟩,
  ⟨0x1D100, "MUSICAL SYMBOL ", ["SINGLE BARLINE,DOUBLE BARLINE,FINAL BARLINE,",
    "REVERSE FINAL BARLINE,DASHED BARLINE,SHORT BARLINE,LEFT REPEAT SIGN,RIGHT REPEAT SIGN,",
    "REPEAT DOTS,DAL SEGNO,DA CAPO,SEGNO,CODA,REPEATED FIGURE-1,REPEATED FIGURE-2,",
    "REPEATED FIGURE-3,FERMATA,FERMATA BELOW"]⟩,
  ⟨0x1D112, "MUSICAL SYMBOL ", ["BREATH MARK,CAESURA,BRACE,BRACKET,ONE-LINE STAFF,",
    "TWO-LINE STAFF,THREE-LINE STAFF,FOUR-LINE STAFF,FIVE-LINE STAFF,SIX-LINE STAFF,",
    "SIX-STRING FRETBOARD,FOUR-STRING FRETBOARD,G CLEF,G CLEF OTTAVA ALTA,",
    "G CLEF OTTAVA BASSA,C CLEF,F CLEF,F CLEF OTTAVA ALTA,F CLEF OTTAVA BASSA,DRUM CLEF-1,",
    "DRUM CLEF-2"]⟩,
  ⟨0x1D129, "MUSICAL SYMBOL ", ["MULTIPLE MEASURE REST,DOUBLE SHARP,DOUBLE FLAT,FLAT UP,",
    "FLAT DOWN,NATURAL UP,NATURAL DOWN,SHARP UP,SHARP DOWN,QUARTER TONE SHARP,",
    "QUARTER TONE FLAT,COMMON TIME"]⟩,
  ⟨0x1D135, "MUSICAL SYMBOL ", ["CUT TIME,OTTAVA ALTA,OTTAVA BASSA,QUINDICESIMA ALTA,",
    "QUINDICESIMA BASSA,MULTI REST,WHOLE REST,HALF REST,QUARTER REST,EIGHTH REST,",
    "SIXTEENTH REST,THIRTY-SECOND REST,SIXTY-FOURTH REST,ONE HUNDRED TWENTY-EIGHTH REST,",
    "X NOTEHEAD,PLUS NOTEHEAD,CIRCLE X NOTEHEAD,SQUARE NOTEHEAD WHITE,SQUARE NOTEHEAD BLACK"]⟩,
  ⟨0x1D148, "MUSICAL SYMBOL TRIANGLE NOTEHEAD ", ["UP WHITE,UP BLACK,LEFT WHITE,LEFT BLACK,",
    "RIGHT WHITE,RIGHT BLACK,DOWN WHITE,DOWN BLACK,UP RIGHT WHITE,UP RIGHT BLACK"]⟩,
  ⟨0x1D152, "MUSICAL SYMBOL ", ["MOON NOTEHEAD WHITE,MOON NOTEHEAD BLACK,",
    "TRIANGLE-ROUND NOTEHEAD DOWN WHITE,TRIANGLE-ROUND NOTEHEAD DOWN BLACK,",
    "PARENTHESIS NOTEHEAD,VOID NOTEHEAD,NOTEHEAD BLACK,NULL NOTEHEAD,CLUSTER NOTEHEAD WHITE,",
    "CLUSTER NOTEHEAD BLACK,BREVE,WHOLE NOTE,HALF NOTE"]⟩,
  ⟨0x1D15F, "MUSICAL SYMBOL ", ["QUARTER NOTE,EIGHTH NOTE,SIXTEENTH NOTE,THIRTY-SECOND NOTE,",
    "SIXTY-FOURTH NOTE,ONE HUNDRED TWENTY-EIGHTH NOTE,COMBINING STEM,",
    "COMBINING SPRECHGESANG STEM,COMBINING TREMOLO-1,COMBINING TREMOLO-2,",
    "COMBINING TREMOLO-3,FINGERED TREMOLO-1,FINGERED TREMOLO-2,FINGERED TREMOLO-3,",
    "COMBINING AUGMENTATION DOT"]⟩,
  ⟨0x1D16E, "MUSICAL SYMBOL COMBINING FLAG-", ["1,2,3,4,5"]⟩,
  ⟨0x1D173, "MUSICAL SYMBOL ", ["BEGIN BEAM,END BEAM,BEGIN TIE,END TIE,BEGIN SLUR,END SLUR,",
    "BEGIN PHRASE,END PHRASE"]⟩,
  ⟨0x1D17B, "MUSICAL SYMBOL COMBINING ", ["ACCENT,STACCATO,TENUTO,STACCATISSIMO,MARCATO,",
    "MARCATO-STACCATO,ACCENT-STACCATO,LOURE"]⟩,
  ⟨0x1D183, "MUSICAL SYMBOL ", ["ARPEGGIATO UP,ARPEGGIATO DOWN,COMBINING DOIT,COMBINING RIP,",
    "COMBINING FLIP,COMBINING SMEAR,COMBINING BEND,COMBINING DOUBLE TONGUE,",
    "COMBINING TRIPLE TONGUE,RINFORZANDO,SUBITO,Z,PIANO,MEZZO,FORTE,CRESCENDO,DECRESCENDO,",
    "GRACE NOTE SLASH,GRACE NOTE NO SLASH,TR,TURN,INVERTED TURN,TURN SLASH,TURN UP"]⟩,
  ⟨0x1D19B, "MUSICAL SYMBOL ORNAMENT STROKE-", ["1,2,3,4,5,6,7,8,9,10,11"]⟩,
  ⟨0x1D1A6, "MUSICAL SYMBOL ", ["HAUPTSTIMME,NEBENSTIMME,END OF STIMME,DEGREE SLASH,",
    "COMBINING DOWN BOW,COMBINING UP BOW,COMBINING HARMONIC,COMBINING SNAP PIZZICATO,",
    "PEDAL MARK,PEDAL UP MARK,HALF PEDAL MARK"]⟩,
  ⟨0x1D1B1, "MUSICAL SYMBOL ", ["GLISSANDO UP,GLISSANDO DOWN,WITH FINGERNAILS,DAMP,DAMP ALL,",
    "MAXIMA,LONGA,BREVIS,SEMIBREVIS WHITE,SEMIBREVIS BLACK,MINIMA,MINIMA BLACK,",
    "SEMIMINIMA WHITE,SEMIMINIMA BLACK,FUSA WHITE,FUSA BLACK,LONGA PERFECTA REST,",
    "LONGA IMPERFECTA REST,BREVIS REST,SEMIBREVIS REST,MINIMA REST,SEMIMINIMA REST"]⟩,
  ⟨0x1D1C7, "MUSICAL SYMBOL TEMPUS PERFECTUM CUM PROLATIONE ", ["PERFECTA,IMPERFECTA,",
    "PERFECTA DIMINUTION-1"]⟩,
  ⟨0x1D1CA, "MUSICAL SYMBOL TEMPUS IMPERFECTUM CUM PROLATIONE ", ["PERFECTA,IMPERFECTA,",
    "IMPERFECTA DIMINUTION-1,IMPERFECTA DIMINUTION-2,IMPERFECTA DIMINUTION-3"]⟩,
  ⟨0x1D1CF, "MUSICAL SYMBOL ", ["CROIX,GREGORIAN C CLEF,GREGORIAN F CLEF,SQUARE B,VIRGA,",
    "PODATUS,CLIVIS,SCANDICUS,CLIMACUS,TORCULUS,PORRECTUS,PORRECTUS FLEXUS,SCANDICUS FLEXUS,",
    "TORCULUS RESUPINUS,PES SUBPUNCTIS"]⟩,
  ⟨0x1D1DE, "MUSICAL SYMBOL KIEVAN ", ["C CLEF,END OF PIECE,FINAL NOTE,RECITATIVE MARK,",
    "WHOLE NOTE,HALF NOTE,QUARTER NOTE STEM DOWN,QUARTER NOTE STEM UP,EIGHTH NOTE STEM DOWN,",
    "EIGHTH NOTE STEM UP,FLAT SIGN"]⟩,
  ⟨0x1D1E9, "MUSICAL SYMBOL ", ["SORI,KORON"]⟩,
  ⟨0x1D200, "GREEK VOCAL NOTATION SYMBOL-", ["1,2,3,4,5,6,7,8,9,10,11,12,13,14,15,16,17,18,19,",
    "20,21,22,23,24,50,51,52,53,54"]⟩,
  ⟨0x1D21D, "GREEK INSTRUMENTAL NOTATION SYMBOL-", ["1,2,4,5,7,8,11,12,13,14,17,18,19,23,24,",
    "25,26,27,29,30,32,36,37,38,39,40,42,43,45,47,48,49,50,51,52,53,54"]⟩,
  ⟨0x1D242, "COMBINING GREEK MUSICAL ", ["TRISEME,TETRASEME,PENTASEME"]⟩,
  ⟨0x1D245, "GREEK MUSICAL LEIMMA", [""]⟩,
  ⟨0x1D2C0, "KAKTOVIK NUMERAL ", ["ZERO,ONE,TWO,THREE,FOUR,FIVE,SIX,SEVEN,EIGHT,NINE,TEN,",
    "ELEVEN,TWELVE,THIRTEEN,FOURTEEN,FIFTEEN,SIXTEEN,SEVENTEEN,EIGHTEEN,NINETEEN"]⟩,
  ⟨0x1D2E0, "MAYAN NUMERAL ", ["ZERO,ONE,TWO,THREE,FOUR,FIVE,SIX,SEVEN,EIGHT,NINE,TEN,ELEVEN,",
    "TWELVE,THIRTEEN,FOURTEEN,FIFTEEN,SIXTEEN,SEVENTEEN,EIGHTEEN,NINETEEN"]⟩,
  ⟨0x1D300, "MONOGRAM FOR EARTH", [""]⟩,
  ⟨0x1D301, "DIGRAM FOR ", ["HEAVENLY EARTH,HUMAN EARTH,EARTHLY HEAVEN,EARTHLY HUMAN,EARTH"]⟩,
  ⟨0x1D306, "TETRAGRAM FOR ", ["CENTRE,FULL CIRCLE,MIRED,BARRIER,KEEPING SMALL,CONTRARIETY,",
    "ASCENT,OPPOSITION,BRANCHING OUT,DEFECTIVENESS OR DISTORTION,DIVERGENCE,YOUTHFULNESS,",
    "INCREASE,PENETRATION,REACH,CONTACT,HOLDING BACK,WAITING,FOLLOWING,ADVANCE"]⟩,
  ⟨0x1D31A, "TETRAGRAM FOR ", ["RELEASE,RESISTANCE,EASE,JOY,CONTENTION,ENDEAVOUR,DUTIES,",
    "CHANGE,DECISIVENESS,BOLD RESOLUTION,PACKING,LEGION,CLOSENESS,KINSHIP,GATHERING,",
    "STRENGTH,PURITY,FULLNESS,RESIDENCE,LAW OR MODEL,RESPONSE,GOING TO MEET,ENCOUNTERS,",
    "STOVE,GREATNESS,ENLARGEMENT,PATTERN,RITUAL,FLIGHT,VASTNESS OR WASTING,CONSTANCY"]⟩,
  ⟨0x1D339, "TETRAGRAM FOR ", ["MEASURE,ETERNITY,UNITY,DIMINISHMENT,CLOSED MOUTH,GUARDEDNESS,",
    "GATHERING IN,MASSING,ACCUMULATION,EMBELLISHMENT,DOUBT,WATCH,SINKING,INNER,DEPARTURE,",
    "DARKENING,DIMMING,EXHAUSTION,SEVERANCE,STOPPAGE,HARDNESS,COMPLETION,CLOSURE,FAILURE,",
    "AGGRAVATION,COMPLIANCE,ON THE VERGE,DIFFICULTIES,LABOURING,FOSTERING"]⟩,
  ⟨0x1D360, "COUNTING ROD UNIT DIGIT ", ["ONE,TWO,THREE,FOUR,FIVE,SIX,SEVEN,EIGHT,NINE"]⟩,
  ⟨0x1D369, "COUNTING ROD TENS DIGIT ", ["ONE,TWO,THREE,FOUR,FIVE,SIX,SEVEN,EIGHT,NINE"]⟩,
  ⟨0x1D372, "IDEOGRAPHIC TALLY MARK ", ["ONE,TWO,THREE,FOUR,FIVE"]⟩,
  ⟨0x1D377, "TALLY MARK ", ["ONE,FIVE"]⟩]

end CodeChart.Name.Table
