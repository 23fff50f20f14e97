import CodeChart.Name.Run

/-!
# Names by run: supplemental pictographs, chess, legacy computing and tags

U+1F900 to U+1FFFF, and U+E0000 to U+10FFFF, where the tags and variation selectors stand.
-/

namespace CodeChart.Name.Table

/-- Runs for supplemental pictographs, chess and legacy computing, by ascending first code. -/
def legacy : Array Run := #[
  ⟨0x1F900, "CIRCLED CROSS ", ["FORMEE WITH FOUR DOTS,FORMEE WITH TWO DOTS,FORMEE"]⟩,
  ⟨0x1F903, "LEFT HALF CIRCLE WITH ", ["FOUR DOTS,THREE DOTS,TWO DOTS,DOT"]⟩,
  ⟨0x1F907, "LEFT HALF CIRCLE", [""]⟩,
  ⟨0x1F908, "DOWNWARD FACING ", ["HOOK,NOTCHED HOOK,HOOK WITH DOT,NOTCHED HOOK WITH DOT"]⟩,
  ⟨0x1F90C, "", ["PINCHED FINGERS,WHITE HEART,BROWN HEART,PINCHING HAND,ZIPPER-MOUTH FACE,",
    "MONEY-MOUTH FACE,FACE WITH THERMOMETER,NERD FACE"]⟩,
  ⟨0x1F914, "", ["THINKING FACE,FACE WITH HEAD-BANDAGE,ROBOT FACE,HUGGING FACE,",
    "SIGN OF THE HORNS,CALL ME HAND,RAISED BACK OF HAND,LEFT-FACING FIST,RIGHT-FACING FIST,",
    "HANDSHAKE,HAND WITH INDEX AND MIDDLE FINGERS CROSSED,I LOVE YOU HAND SIGN"]⟩,
  ⟨0x1F920, "", ["FACE WITH COWBOY HAT,CLOWN FACE,NAUSEATED FACE,",
    "ROLLING ON THE FLOOR LAUGHING,DROOLING FACE,LYING FACE,FACE PALM,SNEEZING FACE,",
    "FACE WITH ONE EYEBROW RAISED,GRINNING FACE WITH STAR EYES,",
    "GRINNING FACE WITH ONE LARGE AND ONE SMALL EYE,FACE WITH FINGER COVERING CLOSED LIPS"]⟩,
  ⟨0x1F92C, "", ["SERIOUS FACE WITH SYMBOLS COVERING MOUTH,",
    "SMILING FACE WITH SMILING EYES AND HAND COVERING MOUTH,FACE WITH OPEN MOUTH VOMITING,",
    "SHOCKED FACE WITH EXPLODING HEAD,PREGNANT WOMAN,BREAST-FEEDING,PALMS UP TOGETHER,",
    "SELFIE,PRINCE,MAN IN TUXEDO,MOTHER CHRISTMAS,SHRUG"]⟩,
  ⟨0x1F938, "", ["PERSON DOING CARTWHEEL,JUGGLING,FENCER,MODERN PENTATHLON,WRESTLERS,",
    "WATER POLO,HANDBALL,DIVING MASK,WILTED FLOWER,DRUM WITH DRUMSTICKS,CLINKING GLASSES,",
    "TUMBLER GLASS"]⟩,
  ⟨0x1F944, "", ["SPOON,GOAL NET,RIFLE,FIRST PLACE MEDAL,SECOND PLACE MEDAL,THIRD PLACE MEDAL,",
    "BOXING GLOVE,MARTIAL ARTS UNIFORM,CURLING STONE,LACROSSE STICK AND BALL,SOFTBALL,",
    "FLYING DISC"]⟩,
  ⟨0x1F950, "", ["CROISSANT,AVOCADO,CUCUMBER,BACON,POTATO,CARROT,BAGUETTE BREAD,GREEN SALAD,",
    "SHALLOW PAN OF FOOD,STUFFED FLATBREAD,EGG,GLASS OF MILK"]⟩,
  ⟨0x1F95C, "", ["PEANUTS,KIWIFRUIT,PANCAKES,DUMPLING,FORTUNE COOKIE,TAKEOUT BOX,CHOPSTICKS,",
    "BOWL WITH SPOON,CUP WITH STRAW,COCONUT,BROCCOLI,PIE"]⟩,
  ⟨0x1F968, "", ["PRETZEL,CUT OF MEAT,SANDWICH,CANNED FOOD,LEAFY GREEN,MANGO,MOON CAKE,BAGEL,",
    "SMILING FACE WITH SMILING EYES AND THREE HEARTS,YAWNING FACE,SMILING FACE WITH TEAR,",
    "FACE WITH PARTY HORN AND PARTY HAT"]⟩,
  ⟨0x1F974, "", ["FACE WITH UNEVEN EYES AND WAVY MOUTH,OVERHEATED FACE,FREEZING FACE,NINJA,",
    "DISGUISED FACE,FACE HOLDING BACK TEARS,FACE WITH PLEADING EYES,SARI,LAB COAT,GOGGLES,",
    "HIKING BOOT,FLAT SHOE"]⟩,
  ⟨0x1F980, "", ["CRAB,LION FACE,SCORPION,TURKEY,UNICORN FACE,EAGLE,DUCK,BAT,SHARK,OWL,",
    "FOX FACE,BUTTERFLY"]⟩,
  ⟨0x1F98C, "", ["DEER,GORILLA,LIZARD,RHINOCEROS,SHRIMP,SQUID,GIRAFFE FACE,ZEBRA FACE,",
    "HEDGEHOG,SAUROPOD,T-REX,CRICKET"]⟩,
  ⟨0x1F998, "", ["KANGAROO,LLAMA,PEACOCK,HIPPOPOTAMUS,PARROT,RACCOON,LOBSTER,MOSQUITO,MICROBE,",
    "BADGER,SWAN,MAMMOTH"]⟩,
  ⟨0x1F9A4, "", ["DODO,SLOTH,OTTER,ORANGUTAN,SKUNK,FLAMINGO,OYSTER,BEAVER,BISON,SEAL,",
    "GUIDE DOG,PROBING CANE"]⟩,
  ⟨0x1F9B0, "EMOJI COMPONENT ", ["RED HAIR,CURLY HAIR,BALD,WHITE HAIR"]⟩,
  ⟨0x1F9B4, "", ["BONE,LEG,FOOT,TOOTH"]⟩,
  ⟨0x1F9B8, "", ["SUPERHERO,SUPERVILLAIN,SAFETY VEST,EAR WITH HEARING AID,",
    "MOTORIZED WHEELCHAIR,MANUAL WHEELCHAIR,MECHANICAL ARM,MECHANICAL LEG,CHEESE WEDGE,",
    "CUPCAKE,SALT SHAKER,BEVERAGE BOX"]⟩,
  ⟨0x1F9C4, "", ["GARLIC,ONION,FALAFEL,WAFFLE,BUTTER,MATE DRINK,ICE CUBE,BUBBLE TEA,TROLL,",
    "STANDING PERSON,KNEELING PERSON,DEAF PERSON"]⟩,
  ⟨0x1F9D0, "", ["FACE WITH MONOCLE,ADULT,CHILD,OLDER ADULT,BEARDED PERSON,",
    "PERSON WITH HEADSCARF,PERSON IN STEAMY ROOM,PERSON CLIMBING,PERSON IN LOTUS POSITION,",
    "MAGE,FAIRY,VAMPIRE"]⟩,
  ⟨0x1F9DC, "", ["MERPERSON,ELF,GENIE,ZOMBIE,BRAIN,ORANGE HEART,BILLED CAP,SCARF,GLOVES,COAT,",
    "SOCKS,RED GIFT ENVELOPE"]⟩,
  ⟨0x1F9E8, "", ["FIRECRACKER,JIGSAW PUZZLE PIECE,TEST TUBE,PETRI DISH,DNA DOUBLE HELIX,",
    "COMPASS,ABACUS,FIRE EXTINGUISHER,TOOLBOX,BRICK,MAGNET,LUGGAGE"]⟩,
  ⟨0x1F9F4, "", ["LOTION BOTTLE,SPOOL OF THREAD,BALL OF YARN,SAFETY PIN,TEDDY BEAR,BROOM,",
    "BASKET,ROLL OF PAPER,BAR OF SOAP,SPONGE,RECEIPT,NAZAR AMULET"]⟩,
  ⟨0x1FA00, "NEUTRAL CHESS ", ["KING,QUEEN,ROOK,BISHOP,KNIGHT,PAWN"]⟩,
  ⟨0x1FA06, "", ["WHITE CHESS KNIGHT ROTATED FORTY-FIVE DEGREES,",
    "BLACK CHESS KNIGHT ROTATED FORTY-FIVE DEGREES,",
    "NEUTRAL CHESS KNIGHT ROTATED FORTY-FIVE DEGREES"]⟩,
  ⟨0x1FA09, "WHITE CHESS ", ["KING ROTATED NINETY DEGREES,QUEEN ROTATED NINETY DEGREES,",
    "ROOK ROTATED NINETY DEGREES,BISHOP ROTATED NINETY DEGREES,",
    "KNIGHT ROTATED NINETY DEGREES,PAWN ROTATED NINETY DEGREES"]⟩,
  ⟨0x1FA0F, "BLACK CHESS ", ["KING ROTATED NINETY DEGREES,QUEEN ROTATED NINETY DEGREES,",
    "ROOK ROTATED NINETY DEGREES,BISHOP ROTATED NINETY DEGREES,",
    "KNIGHT ROTATED NINETY DEGREES,PAWN ROTATED NINETY DEGREES"]⟩,
  ⟨0x1FA15, "NEUTRAL CHESS ", ["KING ROTATED NINETY DEGREES,QUEEN ROTATED NINETY DEGREES,",
    "ROOK ROTATED NINETY DEGREES,BISHOP ROTATED NINETY DEGREES,",
    "KNIGHT ROTATED NINETY DEGREES,PAWN ROTATED NINETY DEGREES"]⟩,
  ⟨0x1FA1B, "", ["WHITE CHESS KNIGHT ROTATED ONE HUNDRED THIRTY-FIVE DEGREES,",
    "BLACK CHESS KNIGHT ROTATED ONE HUNDRED THIRTY-FIVE DEGREES,",
    "NEUTRAL CHESS KNIGHT ROTATED ONE HUNDRED THIRTY-FIVE DEGREES"]⟩,
  ⟨0x1FA1E, "WHITE CHESS TURNED ", ["KING,QUEEN,ROOK,BISHOP,KNIGHT,PAWN"]⟩,
  ⟨0x1FA24, "BLACK CHESS TURNED ", ["KING,QUEEN,ROOK,BISHOP,KNIGHT,PAWN"]⟩,
  ⟨0x1FA2A, "NEUTRAL CHESS TURNED ", ["KING,QUEEN,ROOK,BISHOP,KNIGHT,PAWN"]⟩,
  ⟨0x1FA30, "", ["WHITE CHESS KNIGHT ROTATED TWO HUNDRED TWENTY-FIVE DEGREES,",
    "BLACK CHESS KNIGHT ROTATED TWO HUNDRED TWENTY-FIVE DEGREES,",
    "NEUTRAL CHESS KNIGHT ROTATED TWO HUNDRED TWENTY-FIVE DEGREES"]⟩,
  ⟨0x1FA33, "WHITE CHESS ", ["KING ROTATED TWO HUNDRED SEVENTY DEGREES,",
    "QUEEN ROTATED TWO HUNDRED SEVENTY DEGREES,ROOK ROTATED TWO HUNDRED SEVENTY DEGREES,",
    "BISHOP ROTATED TWO HUNDRED SEVENTY DEGREES,KNIGHT ROTATED TWO HUNDRED SEVENTY DEGREES,",
    "PAWN ROTATED TWO HUNDRED SEVENTY DEGREES"]⟩,
  ⟨0x1FA39, "BLACK CHESS ", ["KING ROTATED TWO HUNDRED SEVENTY DEGREES,",
    "QUEEN ROTATED TWO HUNDRED SEVENTY DEGREES,ROOK ROTATED TWO HUNDRED SEVENTY DEGREES,",
    "BISHOP ROTATED TWO HUNDRED SEVENTY DEGREES,KNIGHT ROTATED TWO HUNDRED SEVENTY DEGREES,",
    "PAWN ROTATED TWO HUNDRED SEVENTY DEGREES"]⟩,
  ⟨0x1FA3F, "NEUTRAL CHESS ", ["KING ROTATED TWO HUNDRED SEVENTY DEGREES,",
    "QUEEN ROTATED TWO HUNDRED SEVENTY DEGREES,ROOK ROTATED TWO HUNDRED SEVENTY DEGREES,",
    "BISHOP ROTATED TWO HUNDRED SEVENTY DEGREES,KNIGHT ROTATED TWO HUNDRED SEVENTY DEGREES,",
    "PAWN ROTATED TWO HUNDRED SEVENTY DEGREES"]⟩,
  ⟨0x1FA45, "", ["WHITE CHESS KNIGHT ROTATED THREE HUNDRED FIFTEEN DEGREES,",
    "BLACK CHESS KNIGHT ROTATED THREE HUNDRED FIFTEEN DEGREES"]⟩,
  ⟨0x1FA47, "", ["NEUTRAL CHESS KNIGHT ROTATED THREE HUNDRED FIFTEEN DEGREES,",
    "WHITE CHESS EQUIHOPPER,BLACK CHESS EQUIHOPPER,NEUTRAL CHESS EQUIHOPPER,",
    "WHITE CHESS EQUIHOPPER ROTATED NINETY DEGREES,",
    "BLACK CHESS EQUIHOPPER ROTATED NINETY DEGREES,",
    "NEUTRAL CHESS EQUIHOPPER ROTATED NINETY DEGREES"]⟩,
  ⟨0x1FA4E, "WHITE CHESS KNIGHT-", ["QUEEN,ROOK,BISHOP"]⟩,
  ⟨0x1FA51, "BLACK CHESS KNIGHT-", ["QUEEN,ROOK,BISHOP"]⟩,
  ⟨0x1FA60, "XIANGQI RED ", ["GENERAL,MANDARIN,ELEPHANT,HORSE,CHARIOT,CANNON,SOLDIER"]⟩,
  ⟨0x1FA67, "XIANGQI BLACK ", ["GENERAL,MANDARIN,ELEPHANT,HORSE,CHARIOT,CANNON,SOLDIER"]⟩,
  ⟨0x1FA70, "BALLET SHOES", [""]⟩,
  ⟨0x1FA71, "", ["ONE-PIECE SWIMSUIT,BRIEFS,SHORTS,THONG SANDAL,LIGHT BLUE HEART,GREY HEART,",
    "PINK HEART,DROP OF BLOOD,ADHESIVE BANDAGE,STETHOSCOPE,X-RAY,CRUTCH"]⟩,
  ⟨0x1FA80, "", ["YO-YO,KITE,PARACHUTE,BOOMERANG,MAGIC WAND,PINATA,NESTING DOLLS,MARACAS,",
    "FLUTE,HARP"]⟩,
  ⟨0x1FA8F, "", ["SHOVEL,RINGED PLANET,CHAIR,RAZOR,AXE,DIYA LAMP,BANJO,MILITARY HELMET"]⟩,
  ⟨0x1FA97, "", ["ACCORDION,LONG DRUM,COIN,CARPENTRY SAW,SCREWDRIVER,LADDER,HOOK,MIRROR,",
    "WINDOW,PLUNGER,SEWING NEEDLE,KNOT"]⟩,
  ⟨0x1FAA3, "", ["BUCKET,MOUSE TRAP,TOOTHBRUSH,HEADSTONE,PLACARD,ROCK,MIRROR BALL,",
    "IDENTIFICATION CARD,LOW BATTERY,HAMSA,FOLDING HAND FAN,HAIR PICK"]⟩,
  ⟨0x1FAAF, "", ["KHANDA,FLY,WORM,BEETLE,COCKROACH,POTTED PLANT,WOOD,FEATHER,LOTUS,CORAL,",
    "EMPTY NEST,NEST WITH EGGS"]⟩,
  ⟨0x1FABB, "", ["HYACINTH,JELLYFISH,WING,LEAFLESS TREE,GOOSE,ANATOMICAL HEART,LUNGS,",
    "PEOPLE HUGGING,PREGNANT MAN,PREGNANT PERSON,PERSON WITH CROWN,FINGERPRINT"]⟩,
  ⟨0x1FACE, "", ["MOOSE,DONKEY,BLUEBERRIES"]⟩,
  ⟨0x1FAD1, "", ["BELL PEPPER,OLIVE,FLATBREAD,TAMALE,FONDUE,TEAPOT,POURING LIQUID,BEANS,JAR,",
    "GINGER ROOT,PEA POD,ROOT VEGETABLE"]⟩,
  ⟨0x1FADF, "", ["SPLATTER,MELTING FACE,SALUTING FACE,FACE WITH OPEN EYES AND HAND OVER MOUTH,",
    "FACE WITH PEEKING EYE,FACE WITH DIAGONAL MOUTH,DOTTED LINE FACE,BITING LIP,BUBBLES,",
    "SHAKING FACE,FACE WITH BAGS UNDER EYES"]⟩,
  ⟨0x1FAF0, "", ["HAND WITH INDEX FINGER AND THUMB CROSSED,RIGHTWARDS HAND,LEFTWARDS HAND,",
    "PALM DOWN HAND,PALM UP HAND,INDEX POINTING AT THE VIEWER,HEART HANDS,",
    "LEFTWARDS PUSHING HAND,RIGHTWARDS PUSHING HAND"]⟩,
  ⟨0x1FB00, "BLOCK SEXTANT-", ["1,2,12,3,13,23,123,4,14,24,124,34,134,234,1234,5,15,25,125,35,",
    "235,1235,45,145,245,1245,345,1345,2345,12345,6,16,26,126,36,136,236,1236,46,146,1246,",
    "346,1346,2346,12346,56,156,256,1256,356,1356,2356,12356,456,1456,2456,12456,3456,13456,",
    "23456"]⟩,
  ⟨0x1FB3C, "LOWER LEFT BLOCK DIAGONAL ", ["LOWER MIDDLE LEFT TO LOWER CENTRE,",
    "LOWER MIDDLE LEFT TO LOWER RIGHT,UPPER MIDDLE LEFT TO LOWER CENTRE,",
    "UPPER MIDDLE LEFT TO LOWER RIGHT,UPPER LEFT TO LOWER CENTRE"]⟩,
  ⟨0x1FB41, "LOWER RIGHT BLOCK DIAGONAL UPPER MIDDLE LEFT TO UPPER ", ["CENTRE,RIGHT"]⟩,
  ⟨0x1FB43, "LOWER RIGHT BLOCK DIAGONAL LOWER ", ["MIDDLE LEFT TO UPPER CENTRE,",
    "MIDDLE LEFT TO UPPER RIGHT,LEFT TO UPPER CENTRE,MIDDLE LEFT TO UPPER MIDDLE RIGHT,",
    "CENTRE TO LOWER MIDDLE RIGHT,LEFT TO LOWER MIDDLE RIGHT,CENTRE TO UPPER MIDDLE RIGHT,",
    "LEFT TO UPPER MIDDLE RIGHT,CENTRE TO UPPER RIGHT"]⟩,
  ⟨0x1FB4C, "LOWER LEFT BLOCK DIAGONAL UPPER ", ["CENTRE TO UPPER MIDDLE RIGHT,",
    "LEFT TO UPPER MIDDLE RIGHT,CENTRE TO LOWER MIDDLE RIGHT,LEFT TO LOWER MIDDLE RIGHT,",
    "CENTRE TO LOWER RIGHT,MIDDLE LEFT TO LOWER MIDDLE RIGHT"]⟩,
  ⟨0x1FB52, "UPPER RIGHT BLOCK DIAGONAL ", ["LOWER MIDDLE LEFT TO LOWER CENTRE,",
    "LOWER MIDDLE LEFT TO LOWER RIGHT,UPPER MIDDLE LEFT TO LOWER CENTRE,",
    "UPPER MIDDLE LEFT TO LOWER RIGHT,UPPER LEFT TO LOWER CENTRE"]⟩,
  ⟨0x1FB57, "UPPER LEFT BLOCK DIAGONAL UPPER MIDDLE LEFT TO UPPER ", ["CENTRE,RIGHT"]⟩,
  ⟨0x1FB59, "UPPER LEFT BLOCK DIAGONAL LOWER ", ["MIDDLE LEFT TO UPPER CENTRE,",
    "MIDDLE LEFT TO UPPER RIGHT,LEFT TO UPPER CENTRE,MIDDLE LEFT TO UPPER MIDDLE RIGHT,",
    "CENTRE TO LOWER MIDDLE RIGHT,LEFT TO LOWER MIDDLE RIGHT,CENTRE TO UPPER MIDDLE RIGHT,",
    "LEFT TO UPPER MIDDLE RIGHT,CENTRE TO UPPER RIGHT"]⟩,
  ⟨0x1FB62, "UPPER RIGHT BLOCK DIAGONAL UPPER ", ["CENTRE TO UPPER MIDDLE RIGHT,",
    "LEFT TO UPPER MIDDLE RIGHT,CENTRE TO LOWER MIDDLE RIGHT,LEFT TO LOWER MIDDLE RIGHT,",
    "CENTRE TO LOWER RIGHT,MIDDLE LEFT TO LOWER MIDDLE RIGHT"]⟩,
  ⟨0x1FB68, "", ["UPPER AND RIGHT AND LOWER TRIANGULAR THREE QUARTERS BLOCK,",
    "LEFT AND LOWER AND RIGHT TRIANGULAR THREE QUARTERS BLOCK"]⟩,
  ⟨0x1FB6A, "", ["UPPER AND LEFT AND LOWER TRIANGULAR THREE QUARTERS BLOCK,",
    "LEFT AND UPPER AND RIGHT TRIANGULAR THREE QUARTERS BLOCK,",
    "LEFT TRIANGULAR ONE QUARTER BLOCK,UPPER TRIANGULAR ONE QUARTER BLOCK,",
    "RIGHT TRIANGULAR ONE QUARTER BLOCK,LOWER TRIANGULAR ONE QUARTER BLOCK"]⟩,
  ⟨0x1FB70, "VERTICAL ONE EIGHTH BLOCK-", ["2,3,4,5,6,7"]⟩,
  ⟨0x1FB76, "HORIZONTAL ONE EIGHTH BLOCK-", ["2,3,4,5,6,7"]⟩,
  ⟨0x1FB7C, "", ["LEFT AND LOWER ONE EIGHTH BLOCK,LEFT AND UPPER ONE EIGHTH BLOCK,",
    "RIGHT AND UPPER ONE EIGHTH BLOCK,RIGHT AND LOWER ONE EIGHTH BLOCK,",
    "UPPER AND LOWER ONE EIGHTH BLOCK,HORIZONTAL ONE EIGHTH BLOCK-1358"]⟩,
  ⟨0x1FB82, "UPPER ", ["ONE QUARTER BLOCK,THREE EIGHTHS BLOCK,FIVE EIGHTHS BLOCK,",
    "THREE QUARTERS BLOCK,SEVEN EIGHTHS BLOCK"]⟩,
  ⟨0x1FB87, "RIGHT ", ["ONE QUARTER BLOCK,THREE EIGHTHS BLOCK,FIVE EIGHTHS BLOCK,",
    "THREE QUARTERS BLOCK,SEVEN EIGHTHS BLOCK"]⟩,
  ⟨0x1FB8C, "", ["LEFT HALF MEDIUM SHADE,RIGHT HALF MEDIUM SHADE,UPPER HALF MEDIUM SHADE,",
    "LOWER HALF MEDIUM SHADE,INVERSE MEDIUM SHADE,",
    "UPPER HALF BLOCK AND LOWER HALF INVERSE MEDIUM SHADE,",
    "UPPER HALF INVERSE MEDIUM SHADE AND LOWER HALF BLOCK"]⟩,
  ⟨0x1FB94, "", ["LEFT HALF INVERSE MEDIUM SHADE AND RIGHT HALF BLOCK,CHECKER BOARD FILL,",
    "INVERSE CHECKER BOARD FILL"]⟩,
  ⟨0x1FB97, "", ["HEAVY HORIZONTAL FILL,UPPER LEFT TO LOWER RIGHT FILL,",
    "UPPER RIGHT TO LOWER LEFT FILL,UPPER AND LOWER TRIANGULAR HALF BLOCK,",
    "LEFT AND RIGHT TRIANGULAR HALF BLOCK,UPPER LEFT TRIANGULAR MEDIUM SHADE,",
    "UPPER RIGHT TRIANGULAR MEDIUM SHADE,LOWER RIGHT TRIANGULAR MEDIUM SHADE,",
    "LOWER LEFT TRIANGULAR MEDIUM SHADE"]⟩,
  ⟨0x1FBA0, "BOX DRAWINGS LIGHT DIAGONAL ", ["UPPER CENTRE TO MIDDLE LEFT,",
    "UPPER CENTRE TO MIDDLE RIGHT,MIDDLE LEFT TO LOWER CENTRE,MIDDLE RIGHT TO LOWER CENTRE,",
    "UPPER CENTRE TO MIDDLE LEFT TO LOWER CENTRE,",
    "UPPER CENTRE TO MIDDLE RIGHT TO LOWER CENTRE,",
    "MIDDLE LEFT TO LOWER CENTRE TO MIDDLE RIGHT,MIDDLE LEFT TO UPPER CENTRE TO MIDDLE RIGHT"]⟩,
  ⟨0x1FBA8, "BOX DRAWINGS LIGHT DIAGONAL UPPER CENTRE TO MIDDLE ",
    ["LEFT AND MIDDLE RIGHT TO LOWER CENTRE,RIGHT AND MIDDLE LEFT TO LOWER CENTRE,",
    "RIGHT TO LOWER CENTRE TO MIDDLE LEFT,LEFT TO LOWER CENTRE TO MIDDLE RIGHT"]⟩,
  ⟨0x1FBAC, "BOX DRAWINGS LIGHT ",
    ["DIAGONAL MIDDLE LEFT TO UPPER CENTRE TO MIDDLE RIGHT TO LOWER CENTRE,",
    "DIAGONAL MIDDLE RIGHT TO UPPER CENTRE TO MIDDLE LEFT TO LOWER CENTRE,DIAGONAL DIAMOND,",
    "HORIZONTAL WITH VERTICAL STROKE"]⟩,
  ⟨0x1FBB0, "", ["ARROWHEAD-SHAPED POINTER,INVERSE CHECK MARK,LEFT HALF RUNNING MAN,",
    "RIGHT HALF RUNNING MAN,INVERSE DOWNWARDS ARROW WITH TIP LEFTWARDS"]⟩,
  ⟨0x1FBB5, "", ["LEFTWARDS ARROW AND UPPER AND LOWER ONE EIGHTH BLOCK,",
    "RIGHTWARDS ARROW AND UPPER AND LOWER ONE EIGHTH BLOCK,",
    "DOWNWARDS ARROW AND RIGHT ONE EIGHTH BLOCK,UPWARDS ARROW AND RIGHT ONE EIGHTH BLOCK,",
    "LEFT HALF FOLDER,RIGHT HALF FOLDER,VOIDED GREEK CROSS,RIGHT OPEN SQUARED DOT"]⟩,
  ⟨0x1FBBD, "NEGATIVE DIAGONAL ", ["CROSS,MIDDLE RIGHT TO LOWER CENTRE,DIAMOND"]⟩,
  ⟨0x1FBC0, "", ["WHITE HEAVY SALTIRE WITH ROUNDED CORNERS,",
    "LEFT THIRD WHITE RIGHT POINTING INDEX,MIDDLE THIRD WHITE RIGHT POINTING INDEX,",
    "RIGHT THIRD WHITE RIGHT POINTING INDEX,NEGATIVE SQUARED QUESTION MARK,STICK FIGURE"]⟩,
  ⟨0x1FBC6, "STICK FIGURE ", ["WITH ARMS RAISED,LEANING LEFT,LEANING RIGHT,WITH DRESS"]⟩,
  ⟨0x1FBCA, "", ["WHITE UP-POINTING CHEVRON,WHITE CROSS MARK,RAISED SMALL LEFT SQUARE BRACKET,",
    "BLACK SMALL UP-POINTING CHEVRON,LEFT TWO THIRDS BLOCK,LEFT ONE THIRD BLOCK"]⟩,
  ⟨0x1FBD0, "BOX DRAWINGS LIGHT DIAGONAL ", ["MIDDLE RIGHT TO LOWER LEFT,",
    "UPPER RIGHT TO MIDDLE LEFT,UPPER LEFT TO MIDDLE RIGHT,MIDDLE LEFT TO LOWER RIGHT,",
    "UPPER LEFT TO LOWER CENTRE,UPPER CENTRE TO LOWER RIGHT,UPPER RIGHT TO LOWER CENTRE,",
    "UPPER CENTRE TO LOWER LEFT,UPPER LEFT TO MIDDLE CENTRE TO UPPER RIGHT"]⟩,
  ⟨0x1FBD9, "BOX DRAWINGS LIGHT DIAGONAL ", ["UPPER RIGHT TO MIDDLE CENTRE TO LOWER RIGHT,",
    "LOWER LEFT TO MIDDLE CENTRE TO LOWER RIGHT,UPPER LEFT TO MIDDLE CENTRE TO LOWER LEFT,",
    "UPPER LEFT TO LOWER CENTRE TO UPPER RIGHT,UPPER RIGHT TO MIDDLE LEFT TO LOWER RIGHT,",
    "LOWER LEFT TO UPPER CENTRE TO LOWER RIGHT,UPPER LEFT TO MIDDLE RIGHT TO LOWER LEFT"]⟩,
  ⟨0x1FBE0, "", ["TOP JUSTIFIED LOWER HALF WHITE CIRCLE,RIGHT JUSTIFIED LEFT HALF WHITE CIRCLE"]⟩,
  ⟨0x1FBE2, "", ["BOTTOM JUSTIFIED UPPER HALF WHITE CIRCLE,",
    "LEFT JUSTIFIED RIGHT HALF WHITE CIRCLE,UPPER CENTRE ONE QUARTER BLOCK,",
    "LOWER CENTRE ONE QUARTER BLOCK,MIDDLE LEFT ONE QUARTER BLOCK,",
    "MIDDLE RIGHT ONE QUARTER BLOCK,TOP JUSTIFIED LOWER HALF BLACK CIRCLE,",
    "RIGHT JUSTIFIED LEFT HALF BLACK CIRCLE"]⟩,
  ⟨0x1FBEA, "", ["BOTTOM JUSTIFIED UPPER HALF BLACK CIRCLE,",
    "LEFT JUSTIFIED RIGHT HALF BLACK CIRCLE,",
    "TOP RIGHT JUSTIFIED LOWER LEFT QUARTER BLACK CIRCLE,",
    "BOTTOM LEFT JUSTIFIED UPPER RIGHT QUARTER BLACK CIRCLE,",
    "BOTTOM RIGHT JUSTIFIED UPPER LEFT QUARTER BLACK CIRCLE,",
    "TOP LEFT JUSTIFIED LOWER RIGHT QUARTER BLACK CIRCLE"]⟩,
  ⟨0x1FBF0, "SEGMENTED DIGIT ", ["ZERO,ONE,TWO,THREE,FOUR,FIVE,SIX,SEVEN,EIGHT,NINE"]⟩]

/-- Runs for tags and variation selectors, by ascending first code. -/
def tags : Array Run := #[
  ⟨0xE0001, "LANGUAGE TAG", [""]⟩,
  ⟨0xE0020, "TAG ", ["SPACE,EXCLAMATION MARK,QUOTATION MARK,NUMBER SIGN,DOLLAR SIGN,",
    "PERCENT SIGN,AMPERSAND,APOSTROPHE,LEFT PARENTHESIS,RIGHT PARENTHESIS,ASTERISK,",
    "PLUS SIGN,COMMA,HYPHEN-MINUS,FULL STOP,SOLIDUS"]⟩,
  ⟨0xE0030, "TAG DIGIT ", ["ZERO,ONE,TWO,THREE,FOUR,FIVE,SIX,SEVEN,EIGHT,NINE"]⟩,
  ⟨0xE003A, "TAG ", ["COLON,SEMICOLON,LESS-THAN SIGN,EQUALS SIGN,GREATER-THAN SIGN,",
    "QUESTION MARK,COMMERCIAL AT"]⟩,
  ⟨0xE0041, "TAG LATIN CAPITAL LETTER ", ["A,B,C,D,E,F,G,H,I,J,K,L,M,N,O,P,Q,R,S,T,U,V,W,X,Y,Z"]⟩,
  ⟨0xE005B, "TAG ", ["LEFT SQUARE BRACKET,REVERSE SOLIDUS,RIGHT SQUARE BRACKET,",
    "CIRCUMFLEX ACCENT,LOW LINE,GRAVE ACCENT"]⟩,
  ⟨0xE0061, "TAG LATIN SMALL LETTER ", ["A,B,C,D,E,F,G,H,I,J,K,L,M,N,O,P,Q,R,S,T,U,V,W,X,Y,Z"]⟩,
  ⟨0xE007B, "", ["TAG LEFT CURLY BRACKET,TAG VERTICAL LINE,TAG RIGHT CURLY BRACKET,TAG TILDE,",
    "CANCEL TAG"]⟩,
  ⟨0xE0100, "VARIATION SELECTOR-", ["17,18,19,20,21,22,23,24,25,26,27,28,29,30,31,32,33,34,35,",
    "36,37,38,39,40,41,42,43,44,45,46,47,48,49,50,51,52,53,54,55,56,57,58,59,60,61,62,63,64,",
    "65,66,67,68,69,70,71,72,73,74,75,76,77,78,79,80,81,82,83,84,85,86,87,88,89,90,91,92,93,",
    "94,95,96,97,98,99,100,101,102,103,104,105,106"]⟩,
  ⟨0xE015A, "VARIATION SELECTOR-", ["107,108,109,110,111,112,113,114,115,116,117,118,119,120,",
    "121,122,123,124,125,126,127,128,129,130,131,132,133,134,135,136,137,138,139,140,141,",
    "142,143,144,145,146,147,148,149,150,151,152,153,154,155,156,157,158,159,160,161,162,",
    "163,164,165,166,167,168,169,170,171,172,173,174,175,176,177,178,179,180,181"]⟩,
  ⟨0xE01A5, "VARIATION SELECTOR-", ["182,183,184,185,186,187,188,189,190,191,192,193,194,195,",
    "196,197,198,199,200,201,202,203,204,205,206,207,208,209,210,211,212,213,214,215,216,",
    "217,218,219,220,221,222,223,224,225,226,227,228,229,230,231,232,233,234,235,236,237,",
    "238,239,240,241,242,243,244,245,246,247,248,249,250,251,252,253,254,255,256"]⟩]

end CodeChart.Name.Table
