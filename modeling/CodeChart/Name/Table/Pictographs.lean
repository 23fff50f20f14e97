import CodeChart.Name.Run

/-!
# Names by run: game pieces, enclosed supplements and pictographs

U+1F000 to U+1F5FF.
-/

namespace CodeChart.Name.Table

/-- Runs for game pieces, enclosed supplements and pictographs, by ascending first code. -/
def pictographs : Array Run := #[
  ⟨0x1F000, "MAHJONG TILE ", ["EAST WIND,SOUTH WIND"]⟩,
  ⟨0x1F002, "MAHJONG TILE ", ["WEST WIND,NORTH WIND,RED DRAGON,GREEN DRAGON,WHITE DRAGON,",
    "ONE OF CHARACTERS,TWO OF CHARACTERS,THREE OF CHARACTERS,FOUR OF CHARACTERS,",
    "FIVE OF CHARACTERS,SIX OF CHARACTERS,SEVEN OF CHARACTERS,EIGHT OF CHARACTERS,",
    "NINE OF CHARACTERS,ONE OF BAMBOOS,TWO OF BAMBOOS,THREE OF BAMBOOS,FOUR OF BAMBOOS"]⟩,
  ⟨0x1F014, "MAHJONG TILE ", ["FIVE OF BAMBOOS,SIX OF BAMBOOS,SEVEN OF BAMBOOS,",
    "EIGHT OF BAMBOOS,NINE OF BAMBOOS,ONE OF CIRCLES,TWO OF CIRCLES,THREE OF CIRCLES,",
    "FOUR OF CIRCLES,FIVE OF CIRCLES,SIX OF CIRCLES,SEVEN OF CIRCLES,EIGHT OF CIRCLES,",
    "NINE OF CIRCLES,PLUM,ORCHID,BAMBOO,CHRYSANTHEMUM,SPRING,SUMMER,AUTUMN,WINTER,JOKER,BACK"]⟩,
  ⟨0x1F030, "DOMINO TILE HORIZONTAL BACK", [""]⟩,
  ⟨0x1F031, "DOMINO TILE HORIZONTAL-", ["00-00,00-01,00-02,00-03,00-04,00-05,00-06,01-00,",
    "01-01,01-02,01-03,01-04,01-05,01-06,02-00,02-01,02-02,02-03,02-04,02-05,02-06,03-00,",
    "03-01,03-02,03-03,03-04,03-05,03-06,04-00,04-01,04-02,04-03,04-04,04-05,04-06,05-00,",
    "05-01,05-02,05-03,05-04,05-05,05-06,06-00,06-01,06-02,06-03,06-04,06-05,06-06"]⟩,
  ⟨0x1F062, "DOMINO TILE VERTICAL BACK", [""]⟩,
  ⟨0x1F063, "DOMINO TILE VERTICAL-", ["00-00,00-01,00-02,00-03,00-04,00-05,00-06,01-00,01-01,",
    "01-02,01-03,01-04,01-05,01-06,02-00,02-01,02-02,02-03,02-04,02-05,02-06,03-00,03-01,",
    "03-02,03-03,03-04,03-05,03-06,04-00,04-01,04-02,04-03,04-04,04-05,04-06,05-00,05-01,",
    "05-02,05-03,05-04,05-05,05-06,06-00,06-01,06-02,06-03,06-04,06-05,06-06"]⟩,
  ⟨0x1F0A0, "PLAYING CARD ", ["BACK,ACE OF SPADES,TWO OF SPADES,THREE OF SPADES,",
    "FOUR OF SPADES,FIVE OF SPADES,SIX OF SPADES,SEVEN OF SPADES,EIGHT OF SPADES,",
    "NINE OF SPADES,TEN OF SPADES,JACK OF SPADES,KNIGHT OF SPADES,QUEEN OF SPADES,",
    "KING OF SPADES"]⟩,
  ⟨0x1F0B1, "PLAYING CARD ", ["ACE OF HEARTS,TWO OF HEARTS,THREE OF HEARTS,FOUR OF HEARTS,",
    "FIVE OF HEARTS,SIX OF HEARTS,SEVEN OF HEARTS,EIGHT OF HEARTS,NINE OF HEARTS,",
    "TEN OF HEARTS,JACK OF HEARTS,KNIGHT OF HEARTS,QUEEN OF HEARTS,KING OF HEARTS,RED JOKER"]⟩,
  ⟨0x1F0C1, "PLAYING CARD ", ["ACE OF DIAMONDS,TWO OF DIAMONDS,THREE OF DIAMONDS,",
    "FOUR OF DIAMONDS,FIVE OF DIAMONDS,SIX OF DIAMONDS,SEVEN OF DIAMONDS,EIGHT OF DIAMONDS,",
    "NINE OF DIAMONDS,TEN OF DIAMONDS,JACK OF DIAMONDS,KNIGHT OF DIAMONDS,QUEEN OF DIAMONDS,",
    "KING OF DIAMONDS,BLACK JOKER"]⟩,
  ⟨0x1F0D1, "PLAYING CARD ", ["ACE OF CLUBS,TWO OF CLUBS,THREE OF CLUBS,FOUR OF CLUBS,",
    "FIVE OF CLUBS,SIX OF CLUBS,SEVEN OF CLUBS,EIGHT OF CLUBS,NINE OF CLUBS,TEN OF CLUBS,",
    "JACK OF CLUBS,KNIGHT OF CLUBS,QUEEN OF CLUBS,KING OF CLUBS,WHITE JOKER,FOOL"]⟩,
  ⟨0x1F0E1, "PLAYING CARD TRUMP-", ["1,2,3,4,5,6,7,8,9,10,11,12,13,14,15,16,17,18,19,20,21"]⟩,
  ⟨0x1F100, "DIGIT ", ["ZERO FULL STOP,ZERO COMMA,ONE COMMA,TWO COMMA,THREE COMMA,FOUR COMMA,",
    "FIVE COMMA,SIX COMMA,SEVEN COMMA,EIGHT COMMA,NINE COMMA"]⟩,
  ⟨0x1F10B, "DINGBAT ", ["CIRCLED SANS-SERIF DIGIT ZERO,NEGATIVE CIRCLED SANS-SERIF DIGIT ZERO"]⟩,
  ⟨0x1F10D, "CIRCLED ", ["ZERO WITH SLASH,ANTICLOCKWISE ARROW,",
    "DOLLAR SIGN WITH OVERLAID BACKSLASH"]⟩,
  ⟨0x1F110, "PARENTHESIZED LATIN CAPITAL LETTER ", ["A,B,C,D,E,F,G,H,I,J,K,L,M,N,O,P,Q,R,S,T,",
    "U,V,W,X,Y,Z"]⟩,
  ⟨0x1F12A, "", ["TORTOISE SHELL BRACKETED LATIN CAPITAL LETTER S,",
    "CIRCLED ITALIC LATIN CAPITAL LETTER C,CIRCLED ITALIC LATIN CAPITAL LETTER R,CIRCLED CD,",
    "CIRCLED WZ,COPYLEFT SYMBOL"]⟩,
  ⟨0x1F130, "SQUARED LATIN CAPITAL LETTER ", ["A,B,C,D,E,F,G,H,I,J,K,L,M,N,O,P,Q,R,S,T,U,V,W,",
    "X,Y,Z"]⟩,
  ⟨0x1F14A, "SQUARED ", ["HV,MV,SD,SS,PPV,WC"]⟩,
  ⟨0x1F150, "NEGATIVE CIRCLED LATIN CAPITAL LETTER ", ["A,B,C,D,E,F,G,H,I,J,K,L,M,N,O,P,Q,R,S,",
    "T,U,V,W,X,Y,Z"]⟩,
  ⟨0x1F16A, "RAISED ", ["MC SIGN,MD SIGN,MR SIGN"]⟩,
  ⟨0x1F16D, "CIRCLED ", ["CC,C WITH OVERLAID BACKSLASH,HUMAN FIGURE"]⟩,
  ⟨0x1F170, "NEGATIVE SQUARED LATIN CAPITAL LETTER ", ["A,B,C,D,E,F,G,H,I,J,K,L,M,N,O,P,Q,R,S,",
    "T,U,V,W,X,Y,Z"]⟩,
  ⟨0x1F18A, "CROSSED NEGATIVE SQUARED LATIN CAPITAL LETTER P", [""]⟩,
  ⟨0x1F18B, "NEGATIVE SQUARED ", ["IC,PA,SA,AB,WC"]⟩,
  ⟨0x1F190, "SQUARE DJ", [""]⟩,
  ⟨0x1F191, "SQUARED ", ["CL,COOL,FREE,ID,NEW,NG,OK,SOS,UP WITH EXCLAMATION MARK,VS,THREE D,",
    "SECOND SCREEN,TWO K,FOUR K,EIGHT K,FIVE POINT ONE,SEVEN POINT ONE,TWENTY-TWO POINT TWO,",
    "SIXTY P,ONE HUNDRED TWENTY P,LATIN SMALL LETTER D,HC,HDR,HI-RES,LOSSLESS,SHV,UHD,VOD"]⟩,
  ⟨0x1F1AD, "MASK WORK SYMBOL", [""]⟩,
  ⟨0x1F1E6, "REGIONAL INDICATOR SYMBOL LETTER ", ["A,B,C,D,E,F,G,H,I,J,K,L,M,N,O,P,Q,R,S,T,U,",
    "V,W,X,Y,Z"]⟩,
  ⟨0x1F200, "", ["SQUARE HIRAGANA HOKA,SQUARED KATAKANA KOKO,SQUARED KATAKANA SA"]⟩,
  ⟨0x1F210, "SQUARED CJK UNIFIED IDEOGRAPH-", ["624B,5B57,53CC"]⟩,
  ⟨0x1F213, "SQUARED KATAKANA DE", [""]⟩,
  ⟨0x1F214, "SQUARED CJK UNIFIED IDEOGRAPH-", ["4E8C,591A,89E3,5929,4EA4,6620,7121,6599,524D,",
    "5F8C,518D,65B0,521D,7D42,751F,8CA9,58F0,5439,6F14,6295,6355,4E00,4E09,904A,5DE6,4E2D,",
    "53F3,6307,8D70,6253,7981,7A7A,5408,6E80,6709,6708,7533,5272,55B6,914D"]⟩,
  ⟨0x1F240, "TORTOISE SHELL BRACKETED CJK UNIFIED IDEOGRAPH-", ["672C,4E09,4E8C,5B89,70B9,",
    "6253,76D7,52DD,6557"]⟩,
  ⟨0x1F250, "CIRCLED IDEOGRAPH ", ["ADVANTAGE,ACCEPT"]⟩,
  ⟨0x1F260, "ROUNDED SYMBOL FOR ", ["FU,LU,SHOU,XI,SHUANGXI,CAI"]⟩,
  ⟨0x1F300, "", ["CYCLONE,FOGGY,CLOSED UMBRELLA,NIGHT WITH STARS,SUNRISE OVER MOUNTAINS,",
    "SUNRISE,CITYSCAPE AT DUSK,SUNSET OVER BUILDINGS,RAINBOW,BRIDGE AT NIGHT,WATER WAVE,",
    "VOLCANO"]⟩,
  ⟨0x1F30C, "", ["MILKY WAY,EARTH GLOBE EUROPE-AFRICA,EARTH GLOBE AMERICAS,",
    "EARTH GLOBE ASIA-AUSTRALIA,GLOBE WITH MERIDIANS,NEW MOON SYMBOL,",
    "WAXING CRESCENT MOON SYMBOL,FIRST QUARTER MOON SYMBOL,WAXING GIBBOUS MOON SYMBOL,",
    "FULL MOON SYMBOL,WANING GIBBOUS MOON SYMBOL,LAST QUARTER MOON SYMBOL"]⟩,
  ⟨0x1F318, "", ["WANING CRESCENT MOON SYMBOL,CRESCENT MOON,NEW MOON WITH FACE,",
    "FIRST QUARTER MOON WITH FACE,LAST QUARTER MOON WITH FACE,FULL MOON WITH FACE,",
    "SUN WITH FACE,GLOWING STAR,SHOOTING STAR,THERMOMETER,BLACK DROPLET,WHITE SUN"]⟩,
  ⟨0x1F324, "WHITE SUN ", ["WITH SMALL CLOUD,BEHIND CLOUD,BEHIND CLOUD WITH RAIN"]⟩,
  ⟨0x1F327, "CLOUD WITH ", ["RAIN,SNOW,LIGHTNING,TORNADO"]⟩,
  ⟨0x1F32B, "", ["FOG,WIND BLOWING FACE,HOT DOG,TACO"]⟩,
  ⟨0x1F32F, "", ["BURRITO,CHESTNUT,SEEDLING,EVERGREEN TREE,DECIDUOUS TREE,PALM TREE,CACTUS,",
    "HOT PEPPER,TULIP,CHERRY BLOSSOM,ROSE,HIBISCUS"]⟩,
  ⟨0x1F33B, "", ["SUNFLOWER,BLOSSOM,EAR OF MAIZE,EAR OF RICE,HERB,FOUR LEAF CLOVER,MAPLE LEAF,",
    "FALLEN LEAF,LEAF FLUTTERING IN WIND,MUSHROOM,TOMATO,AUBERGINE"]⟩,
  ⟨0x1F347, "", ["GRAPES,MELON,WATERMELON,TANGERINE,LEMON,BANANA,PINEAPPLE,RED APPLE,",
    "GREEN APPLE,PEAR,PEACH,CHERRIES"]⟩,
  ⟨0x1F353, "", ["STRAWBERRY,HAMBURGER,SLICE OF PIZZA,MEAT ON BONE,POULTRY LEG,RICE CRACKER,",
    "RICE BALL,COOKED RICE,CURRY AND RICE,STEAMING BOWL,SPAGHETTI,BREAD"]⟩,
  ⟨0x1F35F, "", ["FRENCH FRIES,ROASTED SWEET POTATO,DANGO,ODEN,SUSHI,FRIED SHRIMP,",
    "FISH CAKE WITH SWIRL DESIGN,SOFT ICE CREAM,SHAVED ICE,ICE CREAM,DOUGHNUT,COOKIE"]⟩,
  ⟨0x1F36B, "", ["CHOCOLATE BAR,CANDY,LOLLIPOP,CUSTARD,HONEY POT,SHORTCAKE,BENTO BOX,",
    "POT OF FOOD,COOKING,FORK AND KNIFE,TEACUP WITHOUT HANDLE,SAKE BOTTLE AND CUP"]⟩,
  ⟨0x1F377, "", ["WINE GLASS,COCKTAIL GLASS,TROPICAL DRINK,BEER MUG,CLINKING BEER MUGS,",
    "BABY BOTTLE,FORK AND KNIFE WITH PLATE,BOTTLE WITH POPPING CORK,POPCORN,RIBBON,",
    "WRAPPED PRESENT,BIRTHDAY CAKE"]⟩,
  ⟨0x1F383, "", ["JACK-O-LANTERN,CHRISTMAS TREE,FATHER CHRISTMAS,FIREWORKS,FIREWORK SPARKLER,",
    "BALLOON,PARTY POPPER,CONFETTI BALL,TANABATA TREE,CROSSED FLAGS,PINE DECORATION,",
    "JAPANESE DOLLS"]⟩,
  ⟨0x1F38F, "", ["CARP STREAMER,WIND CHIME,MOON VIEWING CEREMONY,SCHOOL SATCHEL,",
    "GRADUATION CAP,HEART WITH TIP ON THE LEFT,BOUQUET OF FLOWERS,MILITARY MEDAL,",
    "REMINDER RIBBON,MUSICAL KEYBOARD WITH JACKS,STUDIO MICROPHONE,LEVEL SLIDER"]⟩,
  ⟨0x1F39B, "", ["CONTROL KNOBS,BEAMED ASCENDING MUSICAL NOTES,",
    "BEAMED DESCENDING MUSICAL NOTES,FILM FRAMES,ADMISSION TICKETS,CAROUSEL HORSE,",
    "FERRIS WHEEL,ROLLER COASTER,FISHING POLE AND FISH,MICROPHONE,MOVIE CAMERA,CINEMA"]⟩,
  ⟨0x1F3A7, "", ["HEADPHONE,ARTIST PALETTE,TOP HAT,CIRCUS TENT,TICKET,CLAPPER BOARD,",
    "PERFORMING ARTS,VIDEO GAME,DIRECT HIT,SLOT MACHINE,BILLIARDS,GAME DIE"]⟩,
  ⟨0x1F3B3, "", ["BOWLING,FLOWER PLAYING CARDS,MUSICAL NOTE,MULTIPLE MUSICAL NOTES,SAXOPHONE,",
    "GUITAR,MUSICAL KEYBOARD,TRUMPET,VIOLIN,MUSICAL SCORE,RUNNING SHIRT WITH SASH,",
    "TENNIS RACQUET AND BALL"]⟩,
  ⟨0x1F3BF, "", ["SKI AND SKI BOOT,BASKETBALL AND HOOP,CHEQUERED FLAG,SNOWBOARDER,RUNNER,",
    "SURFER,SPORTS MEDAL,TROPHY,HORSE RACING,AMERICAN FOOTBALL,RUGBY FOOTBALL,SWIMMER"]⟩,
  ⟨0x1F3CB, "", ["WEIGHT LIFTER,GOLFER,RACING MOTORCYCLE,RACING CAR,CRICKET BAT AND BALL,",
    "VOLLEYBALL,FIELD HOCKEY STICK AND BALL,ICE HOCKEY STICK AND PUCK,",
    "TABLE TENNIS PADDLE AND BALL,SNOW CAPPED MOUNTAIN,CAMPING,BEACH WITH UMBRELLA"]⟩,
  ⟨0x1F3D7, "", ["BUILDING CONSTRUCTION,HOUSE BUILDINGS,CITYSCAPE,DERELICT HOUSE BUILDING,",
    "CLASSICAL BUILDING,DESERT,DESERT ISLAND,NATIONAL PARK,STADIUM,HOUSE BUILDING,",
    "HOUSE WITH GARDEN,OFFICE BUILDING"]⟩,
  ⟨0x1F3E3, "", ["JAPANESE POST OFFICE,EUROPEAN POST OFFICE,HOSPITAL,BANK,",
    "AUTOMATED TELLER MACHINE,HOTEL,LOVE HOTEL,CONVENIENCE STORE,SCHOOL,DEPARTMENT STORE,",
    "FACTORY,IZAKAYA LANTERN"]⟩,
  ⟨0x1F3EF, "", ["JAPANESE CASTLE,EUROPEAN CASTLE,WHITE PENNANT,BLACK PENNANT,",
    "WAVING WHITE FLAG,WAVING BLACK FLAG,ROSETTE,BLACK ROSETTE,LABEL,",
    "BADMINTON RACQUET AND SHUTTLECOCK,BOW AND ARROW,AMPHORA"]⟩,
  ⟨0x1F3FB, "EMOJI MODIFIER FITZPATRICK TYPE-", ["1-2,3,4,5,6"]⟩,
  ⟨0x1F400, "", ["RAT,MOUSE,OX,WATER BUFFALO,COW,TIGER,LEOPARD,RABBIT,CAT,DRAGON,CROCODILE,WHALE"]⟩,
  ⟨0x1F40C, "", ["SNAIL,SNAKE,HORSE,RAM,GOAT,SHEEP,MONKEY,ROOSTER,CHICKEN,DOG,PIG,BOAR"]⟩,
  ⟨0x1F418, "", ["ELEPHANT,OCTOPUS,SPIRAL SHELL,BUG,ANT,HONEYBEE,LADY BEETLE,FISH,",
    "TROPICAL FISH,BLOWFISH,TURTLE,HATCHING CHICK"]⟩,
  ⟨0x1F424, "", ["BABY CHICK,FRONT-FACING BABY CHICK,BIRD,PENGUIN,KOALA,POODLE,",
    "DROMEDARY CAMEL,BACTRIAN CAMEL,DOLPHIN,MOUSE FACE,COW FACE,TIGER FACE"]⟩,
  ⟨0x1F430, "", ["RABBIT FACE,CAT FACE,DRAGON FACE,SPOUTING WHALE,HORSE FACE,MONKEY FACE,",
    "DOG FACE,PIG FACE,FROG FACE,HAMSTER FACE,WOLF FACE,BEAR FACE"]⟩,
  ⟨0x1F43C, "", ["PANDA FACE,PIG NOSE,PAW PRINTS,CHIPMUNK,EYES,EYE,EAR,NOSE,MOUTH,TONGUE,",
    "WHITE UP POINTING BACKHAND INDEX,WHITE DOWN POINTING BACKHAND INDEX"]⟩,
  ⟨0x1F448, "", ["WHITE LEFT POINTING BACKHAND INDEX,WHITE RIGHT POINTING BACKHAND INDEX,",
    "FISTED HAND SIGN,WAVING HAND SIGN,OK HAND SIGN,THUMBS UP SIGN,THUMBS DOWN SIGN,",
    "CLAPPING HANDS SIGN,OPEN HANDS SIGN,CROWN,WOMANS HAT,EYEGLASSES"]⟩,
  ⟨0x1F454, "", ["NECKTIE,T-SHIRT,JEANS,DRESS,KIMONO,BIKINI,WOMANS CLOTHES,PURSE,HANDBAG,",
    "POUCH,MANS SHOE,ATHLETIC SHOE"]⟩,
  ⟨0x1F460, "", ["HIGH-HEELED SHOE,WOMANS SANDAL,WOMANS BOOTS,FOOTPRINTS,BUST IN SILHOUETTE,",
    "BUSTS IN SILHOUETTE,BOY,GIRL,MAN,WOMAN,FAMILY,MAN AND WOMAN HOLDING HANDS"]⟩,
  ⟨0x1F46C, "", ["TWO MEN HOLDING HANDS,TWO WOMEN HOLDING HANDS,POLICE OFFICER,",
    "WOMAN WITH BUNNY EARS,BRIDE WITH VEIL,PERSON WITH BLOND HAIR,MAN WITH GUA PI MAO,",
    "MAN WITH TURBAN,OLDER MAN,OLDER WOMAN,BABY,CONSTRUCTION WORKER"]⟩,
  ⟨0x1F478, "", ["PRINCESS,JAPANESE OGRE,JAPANESE GOBLIN,GHOST,BABY ANGEL,",
    "EXTRATERRESTRIAL ALIEN,ALIEN MONSTER,IMP,SKULL,INFORMATION DESK PERSON,GUARDSMAN,DANCER"]⟩,
  ⟨0x1F484, "", ["LIPSTICK,NAIL POLISH,FACE MASSAGE,HAIRCUT,BARBER POLE,SYRINGE,PILL,",
    "KISS MARK,LOVE LETTER,RING,GEM STONE,KISS"]⟩,
  ⟨0x1F490, "", ["BOUQUET,COUPLE WITH HEART,WEDDING,BEATING HEART,BROKEN HEART,TWO HEARTS,",
    "SPARKLING HEART,GROWING HEART,HEART WITH ARROW,BLUE HEART,GREEN HEART,YELLOW HEART"]⟩,
  ⟨0x1F49C, "", ["PURPLE HEART,HEART WITH RIBBON,REVOLVING HEARTS,HEART DECORATION,",
    "DIAMOND SHAPE WITH A DOT INSIDE,ELECTRIC LIGHT BULB,ANGER SYMBOL,BOMB,SLEEPING SYMBOL,",
    "COLLISION SYMBOL,SPLASHING SWEAT SYMBOL,DROPLET"]⟩,
  ⟨0x1F4A8, "", ["DASH SYMBOL,PILE OF POO,FLEXED BICEPS,DIZZY SYMBOL,SPEECH BALLOON,",
    "THOUGHT BALLOON,WHITE FLOWER,HUNDRED POINTS SYMBOL,MONEY BAG,CURRENCY EXCHANGE,",
    "HEAVY DOLLAR SIGN,CREDIT CARD"]⟩,
  ⟨0x1F4B4, "BANKNOTE WITH ", ["YEN SIGN,DOLLAR SIGN,EURO SIGN,POUND SIGN"]⟩,
  ⟨0x1F4B8, "", ["MONEY WITH WINGS,CHART WITH UPWARDS TREND AND YEN SIGN,SEAT,",
    "PERSONAL COMPUTER,BRIEFCASE,MINIDISC,FLOPPY DISK,OPTICAL DISC,DVD,FILE FOLDER,",
    "OPEN FILE FOLDER"]⟩,
  ⟨0x1F4C3, "PAGE ", ["WITH CURL,FACING UP"]⟩,
  ⟨0x1F4C5, "", ["CALENDAR,TEAR-OFF CALENDAR,CARD INDEX,CHART WITH UPWARDS TREND,",
    "CHART WITH DOWNWARDS TREND,BAR CHART,CLIPBOARD,PUSHPIN,ROUND PUSHPIN,PAPERCLIP,",
    "STRAIGHT RULER,TRIANGULAR RULER"]⟩,
  ⟨0x1F4D1, "", ["BOOKMARK TABS,LEDGER,NOTEBOOK,NOTEBOOK WITH DECORATIVE COVER,CLOSED BOOK,",
    "OPEN BOOK,GREEN BOOK,BLUE BOOK,ORANGE BOOK,BOOKS,NAME BADGE,SCROLL"]⟩,
  ⟨0x1F4DD, "", ["MEMO,TELEPHONE RECEIVER,PAGER,FAX MACHINE,SATELLITE ANTENNA,",
    "PUBLIC ADDRESS LOUDSPEAKER,CHEERING MEGAPHONE,OUTBOX TRAY,INBOX TRAY,PACKAGE,",
    "E-MAIL SYMBOL,INCOMING ENVELOPE"]⟩,
  ⟨0x1F4E9, "", ["ENVELOPE WITH DOWNWARDS ARROW ABOVE,CLOSED MAILBOX WITH LOWERED FLAG,",
    "CLOSED MAILBOX WITH RAISED FLAG,OPEN MAILBOX WITH RAISED FLAG,",
    "OPEN MAILBOX WITH LOWERED FLAG,POSTBOX,POSTAL HORN,NEWSPAPER,MOBILE PHONE,",
    "MOBILE PHONE WITH RIGHTWARDS ARROW AT LEFT,VIBRATION MODE,MOBILE PHONE OFF"]⟩,
  ⟨0x1F4F5, "", ["NO MOBILE PHONES,ANTENNA WITH BARS,CAMERA,CAMERA WITH FLASH,VIDEO CAMERA,",
    "TELEVISION,RADIO,VIDEOCASSETTE,FILM PROJECTOR,PORTABLE STEREO,PRAYER BEADS,",
    "TWISTED RIGHTWARDS ARROWS"]⟩,
  ⟨0x1F501, "CLOCKWISE RIGHTWARDS AND LEFTWARDS OPEN CIRCLE ", ["ARROWS,",
    "ARROWS WITH CIRCLED ONE OVERLAY"]⟩,
  ⟨0x1F503, "", ["CLOCKWISE DOWNWARDS AND UPWARDS OPEN CIRCLE ARROWS,",
    "ANTICLOCKWISE DOWNWARDS AND UPWARDS OPEN CIRCLE ARROWS,LOW BRIGHTNESS SYMBOL,",
    "HIGH BRIGHTNESS SYMBOL,SPEAKER WITH CANCELLATION STROKE"]⟩,
  ⟨0x1F508, "", ["SPEAKER,SPEAKER WITH ONE SOUND WAVE,SPEAKER WITH THREE SOUND WAVES,BATTERY,",
    "ELECTRIC PLUG,LEFT-POINTING MAGNIFYING GLASS,RIGHT-POINTING MAGNIFYING GLASS,",
    "LOCK WITH INK PEN,CLOSED LOCK WITH KEY,KEY,LOCK,OPEN LOCK"]⟩,
  ⟨0x1F514, "", ["BELL,BELL WITH CANCELLATION STROKE,BOOKMARK,LINK SYMBOL,RADIO BUTTON,",
    "BACK WITH LEFTWARDS ARROW ABOVE,END WITH LEFTWARDS ARROW ABOVE,",
    "ON WITH EXCLAMATION MARK WITH LEFT RIGHT ARROW ABOVE,SOON WITH RIGHTWARDS ARROW ABOVE,",
    "TOP WITH UPWARDS ARROW ABOVE,NO ONE UNDER EIGHTEEN SYMBOL,KEYCAP TEN"]⟩,
  ⟨0x1F520, "INPUT SYMBOL FOR ", ["LATIN CAPITAL LETTERS,LATIN SMALL LETTERS,NUMBERS,SYMBOLS,",
    "LATIN LETTERS"]⟩,
  ⟨0x1F525, "", ["FIRE,ELECTRIC TORCH,WRENCH,HAMMER,NUT AND BOLT,HOCHO,PISTOL,MICROSCOPE,",
    "TELESCOPE"]⟩,
  ⟨0x1F52E, "", ["CRYSTAL BALL,SIX POINTED STAR WITH MIDDLE DOT,JAPANESE SYMBOL FOR BEGINNER,",
    "TRIDENT EMBLEM,BLACK SQUARE BUTTON,WHITE SQUARE BUTTON,LARGE RED CIRCLE,",
    "LARGE BLUE CIRCLE,LARGE ORANGE DIAMOND,LARGE BLUE DIAMOND,SMALL ORANGE DIAMOND,",
    "SMALL BLUE DIAMOND"]⟩,
  ⟨0x1F53A, "", ["UP-POINTING RED TRIANGLE,DOWN-POINTING RED TRIANGLE,",
    "UP-POINTING SMALL RED TRIANGLE,DOWN-POINTING SMALL RED TRIANGLE,",
    "LOWER RIGHT SHADOWED WHITE CIRCLE,UPPER RIGHT SHADOWED WHITE CIRCLE,",
    "CIRCLED CROSS POMMEE,CROSS POMMEE WITH HALF-CIRCLE BELOW,CROSS POMMEE,",
    "NOTCHED LEFT SEMICIRCLE WITH THREE DOTS"]⟩,
  ⟨0x1F544, "", ["NOTCHED RIGHT SEMICIRCLE WITH THREE DOTS,SYMBOL FOR MARKS CHAPTER,",
    "WHITE LATIN CROSS,HEAVY LATIN CROSS,CELTIC CROSS,OM SYMBOL,DOVE OF PEACE,KAABA,MOSQUE,",
    "SYNAGOGUE,MENORAH WITH NINE BRANCHES,BOWL OF HYGIEIA"]⟩,
  ⟨0x1F550, "CLOCK FACE ", ["ONE OCLOCK,TWO OCLOCK,THREE OCLOCK,FOUR OCLOCK,FIVE OCLOCK,",
    "SIX OCLOCK,SEVEN OCLOCK,EIGHT OCLOCK,NINE OCLOCK,TEN OCLOCK,ELEVEN OCLOCK,",
    "TWELVE OCLOCK,ONE-THIRTY,TWO-THIRTY,THREE-THIRTY,FOUR-THIRTY,FIVE-THIRTY,SIX-THIRTY,",
    "SEVEN-THIRTY,EIGHT-THIRTY,NINE-THIRTY,TEN-THIRTY,ELEVEN-THIRTY,TWELVE-THIRTY"]⟩,
  ⟨0x1F568, "", ["RIGHT SPEAKER,RIGHT SPEAKER WITH ONE SOUND WAVE,",
    "RIGHT SPEAKER WITH THREE SOUND WAVES,BULLHORN,BULLHORN WITH SOUND WAVES,RINGING BELL,",
    "BOOK,CANDLE,MANTELPIECE CLOCK"]⟩,
  ⟨0x1F571, "", ["BLACK SKULL AND CROSSBONES,NO PIRACY,HOLE,MAN IN BUSINESS SUIT LEVITATING,",
    "SLEUTH OR SPY,DARK SUNGLASSES,SPIDER,SPIDER WEB,JOYSTICK,MAN DANCING,",
    "LEFT HAND TELEPHONE RECEIVER,TELEPHONE RECEIVER WITH PAGE"]⟩,
  ⟨0x1F57D, "", ["RIGHT HAND TELEPHONE RECEIVER,WHITE TOUCHTONE TELEPHONE,",
    "BLACK TOUCHTONE TELEPHONE,TELEPHONE ON TOP OF MODEM,CLAMSHELL MOBILE PHONE,",
    "BACK OF ENVELOPE,STAMPED ENVELOPE,ENVELOPE WITH LIGHTNING,FLYING ENVELOPE,",
    "PEN OVER STAMPED ENVELOPE,LINKED PAPERCLIPS,BLACK PUSHPIN"]⟩,
  ⟨0x1F589, "LOWER LEFT ", ["PENCIL,BALLPOINT PEN,FOUNTAIN PEN,PAINTBRUSH,CRAYON"]⟩,
  ⟨0x1F58E, "", ["LEFT WRITING HAND,TURNED OK HAND SIGN,RAISED HAND WITH FINGERS SPLAYED,",
    "REVERSED RAISED HAND WITH FINGERS SPLAYED,REVERSED THUMBS UP SIGN,",
    "REVERSED THUMBS DOWN SIGN,REVERSED VICTORY HAND,",
    "REVERSED HAND WITH MIDDLE FINGER EXTENDED,",
    "RAISED HAND WITH PART BETWEEN MIDDLE AND RING FINGERS"]⟩,
  ⟨0x1F597, "", ["WHITE DOWN POINTING LEFT HAND INDEX,SIDEWAYS WHITE LEFT POINTING INDEX,",
    "SIDEWAYS WHITE RIGHT POINTING INDEX,SIDEWAYS BLACK LEFT POINTING INDEX,",
    "SIDEWAYS BLACK RIGHT POINTING INDEX,BLACK LEFT POINTING BACKHAND INDEX,",
    "BLACK RIGHT POINTING BACKHAND INDEX"]⟩,
  ⟨0x1F59E, "SIDEWAYS ", ["WHITE UP POINTING INDEX,WHITE DOWN POINTING INDEX,",
    "BLACK UP POINTING INDEX,BLACK DOWN POINTING INDEX"]⟩,
  ⟨0x1F5A2, "", ["BLACK UP POINTING BACKHAND INDEX,BLACK DOWN POINTING BACKHAND INDEX,",
    "BLACK HEART,DESKTOP COMPUTER,KEYBOARD AND MOUSE,THREE NETWORKED COMPUTERS,PRINTER,",
    "POCKET CALCULATOR,BLACK HARD SHELL FLOPPY DISK,WHITE HARD SHELL FLOPPY DISK,",
    "SOFT SHELL FLOPPY DISK"]⟩,
  ⟨0x1F5AD, "", ["TAPE CARTRIDGE,WIRED KEYBOARD,ONE BUTTON MOUSE,TWO BUTTON MOUSE,",
    "THREE BUTTON MOUSE,TRACKBALL,OLD PERSONAL COMPUTER,HARD DISK,SCREEN,PRINTER ICON,",
    "FAX ICON,OPTICAL DISC ICON"]⟩,
  ⟨0x1F5B9, "DOCUMENT WITH ", ["TEXT,TEXT AND PICTURE,PICTURE"]⟩,
  ⟨0x1F5BC, "FRAME WITH ", ["PICTURE,TILES,AN X"]⟩,
  ⟨0x1F5BF, "", ["BLACK FOLDER,FOLDER,OPEN FOLDER,CARD INDEX DIVIDERS,CARD FILE BOX,",
    "FILE CABINET,EMPTY NOTE,EMPTY NOTE PAGE,EMPTY NOTE PAD,NOTE,NOTE PAGE,NOTE PAD"]⟩,
  ⟨0x1F5CB, "EMPTY ", ["DOCUMENT,PAGE,PAGES"]⟩,
  ⟨0x1F5CE, "", ["DOCUMENT,PAGE,PAGES,WASTEBASKET,SPIRAL NOTE PAD,SPIRAL CALENDAR PAD,",
    "DESKTOP WINDOW,MINIMIZE,MAXIMIZE,OVERLAP"]⟩,
  ⟨0x1F5D8, "", ["CLOCKWISE RIGHT AND LEFT SEMICIRCLE ARROWS,CANCELLATION X,",
    "INCREASE FONT SIZE SYMBOL,DECREASE FONT SIZE SYMBOL,COMPRESSION,OLD KEY,",
    "ROLLED-UP NEWSPAPER,PAGE WITH CIRCLED TEXT,STOCK CHART,DAGGER KNIFE,LIPS,",
    "SPEAKING HEAD IN SILHOUETTE"]⟩,
  ⟨0x1F5E4, "THREE RAYS ", ["ABOVE,BELOW,LEFT,RIGHT"]⟩,
  ⟨0x1F5E8, "", ["LEFT SPEECH BUBBLE,RIGHT SPEECH BUBBLE,TWO SPEECH BUBBLES,",
    "THREE SPEECH BUBBLES,LEFT THOUGHT BUBBLE,RIGHT THOUGHT BUBBLE,LEFT ANGER BUBBLE,",
    "RIGHT ANGER BUBBLE,MOOD BUBBLE,LIGHTNING MOOD BUBBLE,LIGHTNING MOOD"]⟩,
  ⟨0x1F5F3, "BALLOT ", ["BOX WITH BALLOT,SCRIPT X,BOX WITH SCRIPT X,BOLD SCRIPT X,",
    "BOX WITH BOLD SCRIPT X"]⟩,
  ⟨0x1F5F8, "", ["LIGHT CHECK MARK,BALLOT BOX WITH BOLD CHECK,WORLD MAP,MOUNT FUJI,",
    "TOKYO TOWER,STATUE OF LIBERTY,SILHOUETTE OF JAPAN,MOYAI"]⟩]

end CodeChart.Name.Table
