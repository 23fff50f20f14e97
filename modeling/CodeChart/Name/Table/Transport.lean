import CodeChart.Name.Run

/-!
# Names by run: faces, transport signs, alchemy and supplemental arrows

U+1F600 to U+1F8FF.
-/

namespace CodeChart.Name.Table

/-- Runs for faces, transport signs, alchemy and supplemental arrows, by ascending first code. -/
def transport : Array Run := #[
  ⟨0x1F600, "", ["GRINNING FACE,GRINNING FACE WITH SMILING EYES,FACE WITH TEARS OF JOY"]⟩,
  ⟨0x1F603, "SMILING FACE WITH ", ["OPEN MOUTH,OPEN MOUTH AND SMILING EYES,",
    "OPEN MOUTH AND COLD SWEAT,OPEN MOUTH AND TIGHTLY-CLOSED EYES,HALO,HORNS"]⟩,
  ⟨0x1F609, "", ["WINKING FACE,SMILING FACE WITH SMILING EYES,FACE SAVOURING DELICIOUS FOOD,",
    "RELIEVED FACE,SMILING FACE WITH HEART-SHAPED EYES,SMILING FACE WITH SUNGLASSES"]⟩,
  ⟨0x1F60F, "", ["SMIRKING FACE,NEUTRAL FACE,EXPRESSIONLESS FACE,UNAMUSED FACE,",
    "FACE WITH COLD SWEAT,PENSIVE FACE,CONFUSED FACE,CONFOUNDED FACE,KISSING FACE,",
    "FACE THROWING A KISS,KISSING FACE WITH SMILING EYES,KISSING FACE WITH CLOSED EYES"]⟩,
  ⟨0x1F61B, "FACE WITH STUCK-OUT ", ["TONGUE,TONGUE AND WINKING EYE,",
    "TONGUE AND TIGHTLY-CLOSED EYES"]⟩,
  ⟨0x1F61E, "", ["DISAPPOINTED FACE,WORRIED FACE,ANGRY FACE,POUTING FACE,CRYING FACE,",
    "PERSEVERING FACE,FACE WITH LOOK OF TRIUMPH,DISAPPOINTED BUT RELIEVED FACE,",
    "FROWNING FACE WITH OPEN MOUTH,ANGUISHED FACE"]⟩,
  ⟨0x1F628, "", ["FEARFUL FACE,WEARY FACE,SLEEPY FACE,TIRED FACE,GRIMACING FACE,",
    "LOUDLY CRYING FACE,FACE WITH OPEN MOUTH,HUSHED FACE,",
    "FACE WITH OPEN MOUTH AND COLD SWEAT,FACE SCREAMING IN FEAR,ASTONISHED FACE,FLUSHED FACE"]⟩,
  ⟨0x1F634, "", ["SLEEPING FACE,DIZZY FACE,FACE WITHOUT MOUTH,FACE WITH MEDICAL MASK,",
    "GRINNING CAT FACE WITH SMILING EYES,CAT FACE WITH TEARS OF JOY,",
    "SMILING CAT FACE WITH OPEN MOUTH,SMILING CAT FACE WITH HEART-SHAPED EYES,",
    "CAT FACE WITH WRY SMILE,KISSING CAT FACE WITH CLOSED EYES,POUTING CAT FACE,",
    "CRYING CAT FACE"]⟩,
  ⟨0x1F640, "", ["WEARY CAT FACE,SLIGHTLY FROWNING FACE,SLIGHTLY SMILING FACE,",
    "UPSIDE-DOWN FACE,FACE WITH ROLLING EYES,FACE WITH NO GOOD GESTURE,FACE WITH OK GESTURE,",
    "PERSON BOWING DEEPLY,SEE-NO-EVIL MONKEY,HEAR-NO-EVIL MONKEY,SPEAK-NO-EVIL MONKEY,",
    "HAPPY PERSON RAISING ONE HAND"]⟩,
  ⟨0x1F64C, "PERSON ", ["RAISING BOTH HANDS IN CELEBRATION,FROWNING,WITH POUTING FACE,",
    "WITH FOLDED HANDS"]⟩,
  ⟨0x1F650, "", ["NORTH WEST POINTING LEAF,SOUTH WEST POINTING LEAF,NORTH EAST POINTING LEAF,",
    "SOUTH EAST POINTING LEAF,TURNED NORTH WEST POINTING LEAF,",
    "TURNED SOUTH WEST POINTING LEAF,TURNED NORTH EAST POINTING LEAF,",
    "TURNED SOUTH EAST POINTING LEAF,NORTH WEST POINTING VINE LEAF,",
    "SOUTH WEST POINTING VINE LEAF"]⟩,
  ⟨0x1F65A, "", ["NORTH EAST POINTING VINE LEAF,SOUTH EAST POINTING VINE LEAF,",
    "HEAVY NORTH WEST POINTING VINE LEAF,HEAVY SOUTH WEST POINTING VINE LEAF,",
    "HEAVY NORTH EAST POINTING VINE LEAF,HEAVY SOUTH EAST POINTING VINE LEAF,",
    "NORTH WEST POINTING BUD,SOUTH WEST POINTING BUD,NORTH EAST POINTING BUD,",
    "SOUTH EAST POINTING BUD"]⟩,
  ⟨0x1F664, "HEAVY ", ["NORTH WEST POINTING BUD,SOUTH WEST POINTING BUD,",
    "NORTH EAST POINTING BUD,SOUTH EAST POINTING BUD"]⟩,
  ⟨0x1F668, "HOLLOW QUILT SQUARE ", ["ORNAMENT,ORNAMENT IN BLACK SQUARE"]⟩,
  ⟨0x1F66A, "SOLID QUILT SQUARE ", ["ORNAMENT,ORNAMENT IN BLACK SQUARE"]⟩,
  ⟨0x1F66C, "", ["LEFTWARDS ROCKET,UPWARDS ROCKET,RIGHTWARDS ROCKET,DOWNWARDS ROCKET,",
    "SCRIPT LIGATURE ET ORNAMENT,HEAVY SCRIPT LIGATURE ET ORNAMENT,",
    "LIGATURE OPEN ET ORNAMENT,HEAVY LIGATURE OPEN ET ORNAMENT,HEAVY AMPERSAND ORNAMENT,",
    "SWASH AMPERSAND ORNAMENT"]⟩,
  ⟨0x1F676, "SANS-SERIF HEAVY ", ["DOUBLE TURNED COMMA QUOTATION MARK ORNAMENT,",
    "DOUBLE COMMA QUOTATION MARK ORNAMENT,LOW DOUBLE COMMA QUOTATION MARK ORNAMENT"]⟩,
  ⟨0x1F679, "", ["HEAVY INTERROBANG ORNAMENT,SANS-SERIF INTERROBANG ORNAMENT,",
    "HEAVY SANS-SERIF INTERROBANG ORNAMENT,VERY HEAVY SOLIDUS,VERY HEAVY REVERSE SOLIDUS,",
    "CHECKER BOARD,REVERSE CHECKER BOARD,ROCKET,HELICOPTER,STEAM LOCOMOTIVE,RAILWAY CAR"]⟩,
  ⟨0x1F684, "", ["HIGH-SPEED TRAIN,HIGH-SPEED TRAIN WITH BULLET NOSE,TRAIN,METRO,LIGHT RAIL,",
    "STATION,TRAM,TRAM CAR,BUS,ONCOMING BUS,TROLLEYBUS,BUS STOP"]⟩,
  ⟨0x1F690, "", ["MINIBUS,AMBULANCE,FIRE ENGINE,POLICE CAR,ONCOMING POLICE CAR,TAXI,",
    "ONCOMING TAXI,AUTOMOBILE,ONCOMING AUTOMOBILE,RECREATIONAL VEHICLE,DELIVERY TRUCK,",
    "ARTICULATED LORRY"]⟩,
  ⟨0x1F69C, "", ["TRACTOR,MONORAIL,MOUNTAIN RAILWAY,SUSPENSION RAILWAY,MOUNTAIN CABLEWAY,",
    "AERIAL TRAMWAY,SHIP,ROWBOAT,SPEEDBOAT,HORIZONTAL TRAFFIC LIGHT,VERTICAL TRAFFIC LIGHT,",
    "CONSTRUCTION SIGN"]⟩,
  ⟨0x1F6A8, "", ["POLICE CARS REVOLVING LIGHT,TRIANGULAR FLAG ON POST,DOOR,NO ENTRY SIGN,",
    "SMOKING SYMBOL,NO SMOKING SYMBOL,PUT LITTER IN ITS PLACE SYMBOL,DO NOT LITTER SYMBOL,",
    "POTABLE WATER SYMBOL,NON-POTABLE WATER SYMBOL,BICYCLE,NO BICYCLES"]⟩,
  ⟨0x1F6B4, "", ["BICYCLIST,MOUNTAIN BICYCLIST,PEDESTRIAN,NO PEDESTRIANS,CHILDREN CROSSING,",
    "MENS SYMBOL,WOMENS SYMBOL,RESTROOM,BABY SYMBOL,TOILET,WATER CLOSET,SHOWER"]⟩,
  ⟨0x1F6C0, "", ["BATH,BATHTUB,PASSPORT CONTROL,CUSTOMS,BAGGAGE CLAIM,LEFT LUGGAGE,",
    "TRIANGLE WITH ROUNDED CORNERS,PROHIBITED SIGN,CIRCLED INFORMATION SOURCE,BOYS SYMBOL,",
    "GIRLS SYMBOL,COUCH AND LAMP"]⟩,
  ⟨0x1F6CC, "", ["SLEEPING ACCOMMODATION,SHOPPING BAGS,BELLHOP BELL,BED,PLACE OF WORSHIP,",
    "OCTAGONAL SIGN,SHOPPING TROLLEY,STUPA,PAGODA,HINDU TEMPLE,HUT,ELEVATOR"]⟩,
  ⟨0x1F6DC, "", ["WIRELESS,PLAYGROUND SLIDE,WHEEL,RING BUOY,HAMMER AND WRENCH,SHIELD,OIL DRUM,",
    "MOTORWAY,RAILWAY TRACK,MOTOR BOAT"]⟩,
  ⟨0x1F6E6, "UP-POINTING ", ["MILITARY AIRPLANE,AIRPLANE,SMALL AIRPLANE"]⟩,
  ⟨0x1F6E9, "", ["SMALL AIRPLANE,NORTHEAST-POINTING AIRPLANE,AIRPLANE DEPARTURE,",
    "AIRPLANE ARRIVING"]⟩,
  ⟨0x1F6F0, "SATELLITE", [""]⟩,
  ⟨0x1F6F1, "", ["ONCOMING FIRE ENGINE,DIESEL LOCOMOTIVE,PASSENGER SHIP,SCOOTER,MOTOR SCOOTER,",
    "CANOE,SLED,FLYING SAUCER,SKATEBOARD,AUTO RICKSHAW,PICKUP TRUCK,ROLLER SKATE"]⟩,
  ⟨0x1F700, "ALCHEMICAL SYMBOL FOR ", ["QUINTESSENCE,AIR,FIRE,EARTH,WATER,AQUAFORTIS,",
    "AQUA REGIA,AQUA REGIA-2,AQUA VITAE,AQUA VITAE-2,VINEGAR,VINEGAR-2,VINEGAR-3,SULFUR"]⟩,
  ⟨0x1F70E, "ALCHEMICAL SYMBOL FOR ", ["PHILOSOPHERS SULFUR,BLACK SULFUR,MERCURY SUBLIMATE,",
    "MERCURY SUBLIMATE-2,MERCURY SUBLIMATE-3,CINNABAR,SALT,NITRE,VITRIOL,VITRIOL-2,",
    "ROCK SALT,ROCK SALT-2,GOLD,SILVER,IRON ORE,IRON ORE-2,CROCUS OF IRON,REGULUS OF IRON,",
    "COPPER ORE,IRON-COPPER ORE,SUBLIMATE OF COPPER,CROCUS OF COPPER,CROCUS OF COPPER-2"]⟩,
  ⟨0x1F725, "ALCHEMICAL SYMBOL FOR ", ["COPPER ANTIMONIATE,SALT OF COPPER ANTIMONIATE,",
    "SUBLIMATE OF SALT OF COPPER,VERDIGRIS,TIN ORE,LEAD ORE,ANTIMONY ORE,",
    "SUBLIMATE OF ANTIMONY,SALT OF ANTIMONY,SUBLIMATE OF SALT OF ANTIMONY,",
    "VINEGAR OF ANTIMONY,REGULUS OF ANTIMONY,REGULUS OF ANTIMONY-2,REGULUS,REGULUS-2,",
    "REGULUS-3,REGULUS-4"]⟩,
  ⟨0x1F736, "ALCHEMICAL SYMBOL FOR ", ["ALKALI,ALKALI-2,MARCASITE,SAL-AMMONIAC,ARSENIC,",
    "REALGAR,REALGAR-2,AURIPIGMENT,BISMUTH ORE,TARTAR,TARTAR-2,QUICK LIME,BORAX,BORAX-2,",
    "BORAX-3,ALUM,OIL,SPIRIT,TINCTURE,GUM,WAX,POWDER,CALX,TUTTY,CAPUT MORTUUM,",
    "SCEPTER OF JOVE,CADUCEUS,TRIDENT,STARRED TRIDENT,LODESTONE,SOAP,URINE,HORSE DUNG,ASHES,",
    "POT ASHES"]⟩,
  ⟨0x1F759, "ALCHEMICAL SYMBOL FOR ", ["BRICK,POWDERED BRICK,AMALGAM,STRATUM SUPER STRATUM,",
    "STRATUM SUPER STRATUM-2,SUBLIMATION,PRECIPITATE,DISTILL,DISSOLVE,DISSOLVE-2,PURIFY,",
    "PUTREFACTION,CRUCIBLE,CRUCIBLE-2,CRUCIBLE-3,CRUCIBLE-4,CRUCIBLE-5,ALEMBIC,BATH OF MARY,",
    "BATH OF VAPOURS,RETORT,HOUR,NIGHT,DAY-NIGHT,MONTH,HALF DRAM,HALF OUNCE"]⟩,
  ⟨0x1F774, "", ["LOT OF FORTUNE,OCCULTATION,LUNAR ECLIPSE"]⟩,
  ⟨0x1F77B, "", ["HAUMEA,MAKEMAKE,GONGGONG,QUAOAR,ORCUS"]⟩,
  ⟨0x1F780, "BLACK ", ["LEFT-POINTING ISOSCELES RIGHT TRIANGLE,",
    "UP-POINTING ISOSCELES RIGHT TRIANGLE,RIGHT-POINTING ISOSCELES RIGHT TRIANGLE,",
    "DOWN-POINTING ISOSCELES RIGHT TRIANGLE,SLIGHTLY SMALL CIRCLE"]⟩,
  ⟨0x1F785, "", ["MEDIUM BOLD WHITE CIRCLE,BOLD WHITE CIRCLE,HEAVY WHITE CIRCLE,",
    "VERY HEAVY WHITE CIRCLE,EXTREMELY HEAVY WHITE CIRCLE,",
    "WHITE CIRCLE CONTAINING BLACK SMALL CIRCLE,ROUND TARGET,BLACK TINY SQUARE,",
    "BLACK SLIGHTLY SMALL SQUARE,LIGHT WHITE SQUARE"]⟩,
  ⟨0x1F78F, "", ["MEDIUM WHITE SQUARE,BOLD WHITE SQUARE,HEAVY WHITE SQUARE,",
    "VERY HEAVY WHITE SQUARE,EXTREMELY HEAVY WHITE SQUARE,",
    "WHITE SQUARE CONTAINING BLACK VERY SMALL SQUARE,",
    "WHITE SQUARE CONTAINING BLACK MEDIUM SQUARE,SQUARE TARGET,BLACK TINY DIAMOND,",
    "BLACK VERY SMALL DIAMOND,BLACK MEDIUM SMALL DIAMOND"]⟩,
  ⟨0x1F79A, "WHITE DIAMOND CONTAINING BLACK ", ["VERY SMALL DIAMOND,MEDIUM DIAMOND"]⟩,
  ⟨0x1F79C, "", ["DIAMOND TARGET,BLACK TINY LOZENGE,BLACK VERY SMALL LOZENGE,",
    "BLACK MEDIUM SMALL LOZENGE,WHITE LOZENGE CONTAINING BLACK SMALL LOZENGE,",
    "THIN GREEK CROSS,LIGHT GREEK CROSS,MEDIUM GREEK CROSS,BOLD GREEK CROSS,",
    "VERY BOLD GREEK CROSS,VERY HEAVY GREEK CROSS"]⟩,
  ⟨0x1F7A7, "", ["EXTREMELY HEAVY GREEK CROSS,THIN SALTIRE,LIGHT SALTIRE,MEDIUM SALTIRE,",
    "BOLD SALTIRE,HEAVY SALTIRE,VERY HEAVY SALTIRE,EXTREMELY HEAVY SALTIRE,",
    "LIGHT FIVE SPOKED ASTERISK,MEDIUM FIVE SPOKED ASTERISK,BOLD FIVE SPOKED ASTERISK,",
    "HEAVY FIVE SPOKED ASTERISK"]⟩,
  ⟨0x1F7B3, "", ["VERY HEAVY FIVE SPOKED ASTERISK,EXTREMELY HEAVY FIVE SPOKED ASTERISK,",
    "LIGHT SIX SPOKED ASTERISK,MEDIUM SIX SPOKED ASTERISK,BOLD SIX SPOKED ASTERISK,",
    "HEAVY SIX SPOKED ASTERISK,VERY HEAVY SIX SPOKED ASTERISK,",
    "EXTREMELY HEAVY SIX SPOKED ASTERISK,LIGHT EIGHT SPOKED ASTERISK,",
    "MEDIUM EIGHT SPOKED ASTERISK"]⟩,
  ⟨0x1F7BD, "", ["BOLD EIGHT SPOKED ASTERISK,HEAVY EIGHT SPOKED ASTERISK,",
    "VERY HEAVY EIGHT SPOKED ASTERISK,LIGHT THREE POINTED BLACK STAR,",
    "MEDIUM THREE POINTED BLACK STAR,THREE POINTED BLACK STAR,",
    "MEDIUM THREE POINTED PINWHEEL STAR,LIGHT FOUR POINTED BLACK STAR,",
    "MEDIUM FOUR POINTED BLACK STAR,FOUR POINTED BLACK STAR"]⟩,
  ⟨0x1F7C7, "", ["MEDIUM FOUR POINTED PINWHEEL STAR,REVERSE LIGHT FOUR POINTED PINWHEEL STAR,",
    "LIGHT FIVE POINTED BLACK STAR,HEAVY FIVE POINTED BLACK STAR,",
    "MEDIUM SIX POINTED BLACK STAR,HEAVY SIX POINTED BLACK STAR,SIX POINTED PINWHEEL STAR,",
    "MEDIUM EIGHT POINTED BLACK STAR,HEAVY EIGHT POINTED BLACK STAR"]⟩,
  ⟨0x1F7D0, "", ["VERY HEAVY EIGHT POINTED BLACK STAR,HEAVY EIGHT POINTED PINWHEEL STAR,",
    "LIGHT TWELVE POINTED BLACK STAR,HEAVY TWELVE POINTED BLACK STAR,",
    "HEAVY TWELVE POINTED PINWHEEL STAR,CIRCLED TRIANGLE,NEGATIVE CIRCLED TRIANGLE,",
    "CIRCLED SQUARE,NEGATIVE CIRCLED SQUARE,NINE POINTED WHITE STAR"]⟩,
  ⟨0x1F7E0, "LARGE ", ["ORANGE CIRCLE,YELLOW CIRCLE,GREEN CIRCLE,PURPLE CIRCLE,BROWN CIRCLE,",
    "RED SQUARE,BLUE SQUARE,ORANGE SQUARE,YELLOW SQUARE,GREEN SQUARE,PURPLE SQUARE,",
    "BROWN SQUARE"]⟩,
  ⟨0x1F7F0, "HEAVY EQUALS SIGN", [""]⟩,
  ⟨0x1F800, "", ["LEFTWARDS ARROW WITH SMALL TRIANGLE ARROWHEAD,",
    "UPWARDS ARROW WITH SMALL TRIANGLE ARROWHEAD,",
    "RIGHTWARDS ARROW WITH SMALL TRIANGLE ARROWHEAD,",
    "DOWNWARDS ARROW WITH SMALL TRIANGLE ARROWHEAD,",
    "LEFTWARDS ARROW WITH MEDIUM TRIANGLE ARROWHEAD,",
    "UPWARDS ARROW WITH MEDIUM TRIANGLE ARROWHEAD"]⟩,
  ⟨0x1F806, "", ["RIGHTWARDS ARROW WITH MEDIUM TRIANGLE ARROWHEAD,",
    "DOWNWARDS ARROW WITH MEDIUM TRIANGLE ARROWHEAD,",
    "LEFTWARDS ARROW WITH LARGE TRIANGLE ARROWHEAD,",
    "UPWARDS ARROW WITH LARGE TRIANGLE ARROWHEAD,",
    "RIGHTWARDS ARROW WITH LARGE TRIANGLE ARROWHEAD,",
    "DOWNWARDS ARROW WITH LARGE TRIANGLE ARROWHEAD"]⟩,
  ⟨0x1F810, "", ["LEFTWARDS ARROW WITH SMALL EQUILATERAL ARROWHEAD,",
    "UPWARDS ARROW WITH SMALL EQUILATERAL ARROWHEAD"]⟩,
  ⟨0x1F812, "", ["RIGHTWARDS ARROW WITH SMALL EQUILATERAL ARROWHEAD,",
    "DOWNWARDS ARROW WITH SMALL EQUILATERAL ARROWHEAD,",
    "LEFTWARDS ARROW WITH EQUILATERAL ARROWHEAD,UPWARDS ARROW WITH EQUILATERAL ARROWHEAD,",
    "RIGHTWARDS ARROW WITH EQUILATERAL ARROWHEAD,DOWNWARDS ARROW WITH EQUILATERAL ARROWHEAD"]⟩,
  ⟨0x1F818, "HEAVY ", ["LEFTWARDS ARROW WITH EQUILATERAL ARROWHEAD,",
    "UPWARDS ARROW WITH EQUILATERAL ARROWHEAD,RIGHTWARDS ARROW WITH EQUILATERAL ARROWHEAD,",
    "DOWNWARDS ARROW WITH EQUILATERAL ARROWHEAD,",
    "LEFTWARDS ARROW WITH LARGE EQUILATERAL ARROWHEAD,",
    "UPWARDS ARROW WITH LARGE EQUILATERAL ARROWHEAD"]⟩,
  ⟨0x1F81E, "", ["HEAVY RIGHTWARDS ARROW WITH LARGE EQUILATERAL ARROWHEAD,",
    "HEAVY DOWNWARDS ARROW WITH LARGE EQUILATERAL ARROWHEAD,",
    "LEFTWARDS TRIANGLE-HEADED ARROW WITH NARROW SHAFT,",
    "UPWARDS TRIANGLE-HEADED ARROW WITH NARROW SHAFT"]⟩,
  ⟨0x1F822, "", ["RIGHTWARDS TRIANGLE-HEADED ARROW WITH NARROW SHAFT,",
    "DOWNWARDS TRIANGLE-HEADED ARROW WITH NARROW SHAFT,",
    "LEFTWARDS TRIANGLE-HEADED ARROW WITH MEDIUM SHAFT,",
    "UPWARDS TRIANGLE-HEADED ARROW WITH MEDIUM SHAFT,",
    "RIGHTWARDS TRIANGLE-HEADED ARROW WITH MEDIUM SHAFT,",
    "DOWNWARDS TRIANGLE-HEADED ARROW WITH MEDIUM SHAFT"]⟩,
  ⟨0x1F828, "", ["LEFTWARDS TRIANGLE-HEADED ARROW WITH BOLD SHAFT,",
    "UPWARDS TRIANGLE-HEADED ARROW WITH BOLD SHAFT,",
    "RIGHTWARDS TRIANGLE-HEADED ARROW WITH BOLD SHAFT,",
    "DOWNWARDS TRIANGLE-HEADED ARROW WITH BOLD SHAFT,",
    "LEFTWARDS TRIANGLE-HEADED ARROW WITH HEAVY SHAFT,",
    "UPWARDS TRIANGLE-HEADED ARROW WITH HEAVY SHAFT"]⟩,
  ⟨0x1F82E, "", ["RIGHTWARDS TRIANGLE-HEADED ARROW WITH HEAVY SHAFT,",
    "DOWNWARDS TRIANGLE-HEADED ARROW WITH HEAVY SHAFT,",
    "LEFTWARDS TRIANGLE-HEADED ARROW WITH VERY HEAVY SHAFT,",
    "UPWARDS TRIANGLE-HEADED ARROW WITH VERY HEAVY SHAFT,",
    "RIGHTWARDS TRIANGLE-HEADED ARROW WITH VERY HEAVY SHAFT"]⟩,
  ⟨0x1F833, "", ["DOWNWARDS TRIANGLE-HEADED ARROW WITH VERY HEAVY SHAFT,",
    "LEFTWARDS FINGER-POST ARROW,UPWARDS FINGER-POST ARROW,RIGHTWARDS FINGER-POST ARROW,",
    "DOWNWARDS FINGER-POST ARROW,LEFTWARDS SQUARED ARROW,UPWARDS SQUARED ARROW,",
    "RIGHTWARDS SQUARED ARROW,DOWNWARDS SQUARED ARROW,LEFTWARDS COMPRESSED ARROW"]⟩,
  ⟨0x1F83D, "", ["UPWARDS COMPRESSED ARROW,RIGHTWARDS COMPRESSED ARROW,",
    "DOWNWARDS COMPRESSED ARROW,LEFTWARDS HEAVY COMPRESSED ARROW,",
    "UPWARDS HEAVY COMPRESSED ARROW,RIGHTWARDS HEAVY COMPRESSED ARROW,",
    "DOWNWARDS HEAVY COMPRESSED ARROW,LEFTWARDS HEAVY ARROW,UPWARDS HEAVY ARROW,",
    "RIGHTWARDS HEAVY ARROW,DOWNWARDS HEAVY ARROW"]⟩,
  ⟨0x1F850, "", ["LEFTWARDS SANS-SERIF ARROW,UPWARDS SANS-SERIF ARROW,",
    "RIGHTWARDS SANS-SERIF ARROW,DOWNWARDS SANS-SERIF ARROW,NORTH WEST SANS-SERIF ARROW,",
    "NORTH EAST SANS-SERIF ARROW,SOUTH EAST SANS-SERIF ARROW,SOUTH WEST SANS-SERIF ARROW,",
    "LEFT RIGHT SANS-SERIF ARROW,UP DOWN SANS-SERIF ARROW"]⟩,
  ⟨0x1F860, "WIDE-HEADED ", ["LEFTWARDS LIGHT BARB ARROW,UPWARDS LIGHT BARB ARROW,",
    "RIGHTWARDS LIGHT BARB ARROW,DOWNWARDS LIGHT BARB ARROW,NORTH WEST LIGHT BARB ARROW,",
    "NORTH EAST LIGHT BARB ARROW,SOUTH EAST LIGHT BARB ARROW,SOUTH WEST LIGHT BARB ARROW,",
    "LEFTWARDS BARB ARROW"]⟩,
  ⟨0x1F869, "WIDE-HEADED ", ["UPWARDS BARB ARROW,RIGHTWARDS BARB ARROW,DOWNWARDS BARB ARROW,",
    "NORTH WEST BARB ARROW,NORTH EAST BARB ARROW,SOUTH EAST BARB ARROW,",
    "SOUTH WEST BARB ARROW,LEFTWARDS MEDIUM BARB ARROW,UPWARDS MEDIUM BARB ARROW,",
    "RIGHTWARDS MEDIUM BARB ARROW,DOWNWARDS MEDIUM BARB ARROW,NORTH WEST MEDIUM BARB ARROW"]⟩,
  ⟨0x1F875, "WIDE-HEADED ", ["NORTH EAST MEDIUM BARB ARROW,SOUTH EAST MEDIUM BARB ARROW,",
    "SOUTH WEST MEDIUM BARB ARROW,LEFTWARDS HEAVY BARB ARROW,UPWARDS HEAVY BARB ARROW,",
    "RIGHTWARDS HEAVY BARB ARROW,DOWNWARDS HEAVY BARB ARROW,NORTH WEST HEAVY BARB ARROW,",
    "NORTH EAST HEAVY BARB ARROW,SOUTH EAST HEAVY BARB ARROW"]⟩,
  ⟨0x1F87F, "WIDE-HEADED ", ["SOUTH WEST HEAVY BARB ARROW,LEFTWARDS VERY HEAVY BARB ARROW,",
    "UPWARDS VERY HEAVY BARB ARROW,RIGHTWARDS VERY HEAVY BARB ARROW,",
    "DOWNWARDS VERY HEAVY BARB ARROW,NORTH WEST VERY HEAVY BARB ARROW,",
    "NORTH EAST VERY HEAVY BARB ARROW,SOUTH EAST VERY HEAVY BARB ARROW,",
    "SOUTH WEST VERY HEAVY BARB ARROW"]⟩,
  ⟨0x1F890, "", ["LEFTWARDS TRIANGLE ARROWHEAD,UPWARDS TRIANGLE ARROWHEAD,",
    "RIGHTWARDS TRIANGLE ARROWHEAD,DOWNWARDS TRIANGLE ARROWHEAD,",
    "LEFTWARDS WHITE ARROW WITHIN TRIANGLE ARROWHEAD"]⟩,
  ⟨0x1F895, "", ["UPWARDS WHITE ARROW WITHIN TRIANGLE ARROWHEAD,",
    "RIGHTWARDS WHITE ARROW WITHIN TRIANGLE ARROWHEAD,",
    "DOWNWARDS WHITE ARROW WITHIN TRIANGLE ARROWHEAD,LEFTWARDS ARROW WITH NOTCHED TAIL,",
    "UPWARDS ARROW WITH NOTCHED TAIL,RIGHTWARDS ARROW WITH NOTCHED TAIL,",
    "DOWNWARDS ARROW WITH NOTCHED TAIL"]⟩,
  ⟨0x1F89C, "HEAVY ARROW SHAFT WIDTH ", ["ONE,TWO THIRDS,ONE HALF,ONE THIRD"]⟩,
  ⟨0x1F8A0, "", ["LEFTWARDS BOTTOM-SHADED WHITE ARROW,RIGHTWARDS BOTTOM SHADED WHITE ARROW,",
    "LEFTWARDS TOP SHADED WHITE ARROW,RIGHTWARDS TOP SHADED WHITE ARROW,",
    "LEFTWARDS LEFT-SHADED WHITE ARROW"]⟩,
  ⟨0x1F8A5, "", ["RIGHTWARDS RIGHT-SHADED WHITE ARROW,LEFTWARDS RIGHT-SHADED WHITE ARROW,",
    "RIGHTWARDS LEFT-SHADED WHITE ARROW,LEFTWARDS BACK-TILTED SHADOWED WHITE ARROW,",
    "RIGHTWARDS BACK-TILTED SHADOWED WHITE ARROW,",
    "LEFTWARDS FRONT-TILTED SHADOWED WHITE ARROW,",
    "RIGHTWARDS FRONT-TILTED SHADOWED WHITE ARROW"]⟩,
  ⟨0x1F8AC, "WHITE ARROW SHAFT WIDTH ", ["ONE,TWO THIRDS"]⟩,
  ⟨0x1F8B0, "", ["ARROW POINTING UPWARDS THEN NORTH WEST,",
    "ARROW POINTING RIGHTWARDS THEN CURVING SOUTH WEST,RIGHTWARDS ARROW WITH LOWER HOOK,",
    "DOWNWARDS BLACK ARROW TO BAR"]⟩,
  ⟨0x1F8B4, "NEGATIVE SQUARED ", ["LEFTWARDS ARROW,UPWARDS ARROW,RIGHTWARDS ARROW,",
    "DOWNWARDS ARROW"]⟩,
  ⟨0x1F8B8, "", ["NORTH WEST ARROW FROM BAR,NORTH EAST ARROW FROM BAR,",
    "SOUTH EAST ARROW FROM BAR,SOUTH WEST ARROW FROM BAR"]⟩,
  ⟨0x1F8C0, "", ["LEFTWARDS ARROW FROM DOWNWARDS ARROW,RIGHTWARDS ARROW FROM DOWNWARDS ARROW"]⟩]

end CodeChart.Name.Table
