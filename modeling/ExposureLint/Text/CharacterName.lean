import ExposureLint.Text.Basic

/-!
Names of characters, as the standard of characters gives them: letters, signs, arrows, shapes and
pictures in common use, and the ideographs and syllables whose names follow a rule. In the tables a
low line stands for a blank, and a family is the names that begin with the same words.
-/
namespace ExposureLint.CharacterName

def alone : String := "
  ACCOUNT_OF ACK ACKNOWLEDGE ACTIVATE_ARABIC_FORM_SHAPING ACTIVATE_SYMMETRIC_SWAPPING ACUTE_ACCENT
  ADDRESSED_TO_THE_SUBJECT ADI_SHAKTI ADMISSION_TICKETS AERIAL_TRAMWAY AIRPLANE AIRPLANE_ARRIVING
  AIRPLANE_DEPARTURE AKTIESELSKAB ALEF_SYMBOL ALEMBIC ALERT ALIEN_MONSTER ALL_EQUAL_TO
  ALMOST_EQUAL_OR_EQUAL_TO ALMOST_EQUAL_TO ALTERNATE_ONE-WAY_LEFT_WAY_TRAFFIC AMBULANCE
  AMERICAN_FOOTBALL AMPERSAND AMPHORA ANCHOR ANGER_SYMBOL ANGLE ANGRY_FACE ANGSTROM_SIGN
  ANGUISHED_FACE ANKH ANT ANTENNA_WITH_BARS APC APOSTROPHE APPLICATION_PROGRAM_COMMAND
  APPROACHES_THE_LIMIT APPROXIMATELY_BUT_NOT_ACTUALLY_EQUAL_TO APPROXIMATELY_EQUAL_TO
  APPROXIMATELY_EQUAL_TO_OR_THE_IMAGE_OF AQUARIUS ARIES ARTICULATED_LORRY ARTIST_PALETTE
  ASCENDING_NODE ASSERTION ASTERISK ASTERISK_OPERATOR ASTERISM ASTONISHED_FACE
  ASTRONOMICAL_SYMBOL_FOR_URANUS ASYMPTOTICALLY_EQUAL_TO ATHLETIC_SHOE ATOM_SYMBOL AUBERGINE
  AUSTRAL_SIGN AUTOMATED_TELLER_MACHINE AUTOMOBILE AUTO_RICKSHAW BABY
  BACK-TILTED_SHADOWED_WHITE_RIGHTWARDS_ARROW BACKSPACE BACK_OF_ENVELOPE
  BACK_WITH_LEFTWARDS_ARROW_ABOVE BACTRIAN_CAMEL BADMINTON_RACQUET_AND_SHUTTLECOCK BAGGAGE_CLAIM
  BALLOON BALLOON-SPOKED_ASTERISK BANANA BANK BARBER_POLE BAR_CHART BASEBALL BASKETBALL_AND_HOOP
  BATH BATHTUB BATTERY BEACH_WITH_UMBRELLA BEAR_FACE BEATING_HEART BECAUSE BED BEER_MUG BEL BELL
  BELLHOP_BELL BELL_WITH_CANCELLATION_STROKE BENTO_BOX BETWEEN BET_SYMBOL BICYCLE BICYCLIST BIKINI
  BILLIARDS BIOHAZARD_SIGN BIRD BIRTHDAY_CAKE BITCOIN_SIGN BLACK-FEATHERED_NORTH_EAST_ARROW
  BLACK-FEATHERED_RIGHTWARDS_ARROW BLACK-FEATHERED_SOUTH_EAST_ARROW BLOSSOM BLOWFISH BLUE_BOOK
  BLUE_HEART BOAR BOM BOMB BOOK BOOKMARK BOOKMARK_TABS BOOKS BOTTLE_WITH_POPPING_CORK BOUQUET
  BOUQUET_OF_FLOWERS BOWLING BOWL_OF_HYGIEIA BOWTIE BOW_AND_ARROW BOY BOYS_SYMBOL BPH BREAD
  BREAK_PERMITTED_HERE BREAST-FEEDING BRIDE_WITH_VEIL BRIDGE_AT_NIGHT BRIEFCASE BROKEN_BAR
  BROKEN_HEART BS BUG BUILDING_CONSTRUCTION BULLET BULLET_OPERATOR BULLHORN
  BULLHORN_WITH_SOUND_WAVES BULLSEYE BURRITO BUS BUSTS_IN_SILHOUETTE BUST_IN_SILHOUETTE BUS_STOP
  BYTE_ORDER_MARK CACTUS CADA_UNA CADUCEUS CALENDAR CALL_ME_HAND CAMERA CAMERA_WITH_FLASH CAMPING
  CAN CANCEL CANCELLATION_X CANCER CANDLE CANDY CANOE CAPRICORN CARD_FILE_BOX CARD_INDEX
  CARD_INDEX_DIVIDERS CARET CARET_INSERTION_POINT CARE_OF CAROUSEL_HORSE CARP_STREAMER
  CARRIAGE_RETURN CAR_SLIDING CASTLE CAT CAT_FACE CAT_FACE_WITH_TEARS_OF_JOY
  CAT_FACE_WITH_WRY_SMILE CAUTION_SIGN CEDILLA CEDI_SIGN CELTIC_CROSS CENTRE_LINE_SYMBOL CENT_SIGN
  CERES CGJ CHAINS CHARACTER_TABULATION CHARACTER_TIE CHART_WITH_DOWNWARDS_TREND
  CHART_WITH_UPWARDS_TREND CHART_WITH_UPWARDS_TREND_AND_YEN_SIGN CHECK_MARK CHEERING_MEGAPHONE
  CHEQUERED_FLAG CHERRIES CHERRY_BLOSSOM CHESTNUT CHICKEN CHILDREN_CROSSING CHIPMUNK CHIRON
  CHI_RHO CHOCOLATE_BAR CHRISTMAS_TREE CHURCH CINEMA CIRCUMFLEX_ACCENT CIRCUS_TENT CITYSCAPE
  CITYSCAPE_AT_DUSK CLAMSHELL_MOBILE_PHONE CLAPPER_BOARD CLAPPING_HANDS_SIGN CLASSICAL_BUILDING
  CLINKING_BEER_MUGS CLIPBOARD CLOSE_UP CLOUD CLOWN_FACE COCKTAIL_GLASS COFFIN COLLISION_SYMBOL
  COLON COLON_EQUALS COLON_SIGN COMET COMMA COMMERCIAL_AT COMMERCIAL_MINUS_SIGN COMPLEMENT
  COMPRESSION CONFETTI_BALL CONFOUNDED_FACE CONFUSED_FACE CONJUNCTION CONSTRUCTION_SIGN
  CONSTRUCTION_WORKER CONTOUR_INTEGRAL CONTROL_KNOBS CONTROL_SEQUENCE_INTRODUCER CONVENIENCE_STORE
  COOKED_RICE COOKIE COOKING COPYRIGHT_SIGN CORRESPONDS_TO COUCH_AND_LAMP COUPLE_WITH_HEART COW
  COW_FACE CR CREDIT_CARD CRESCENT_MOON CRICKET_BAT_AND_BALL CROCODILE CROSSED_FLAGS
  CROSSED_SWORDS CROSSING_LANES CROWN CRUZEIRO_SIGN CRYING_CAT_FACE CRYING_FACE CRYSTAL_BALL CSI
  CUBE_ROOT CUP_ON_BLACK_SQUARE CURLY_LOGICAL_AND CURLY_LOGICAL_OR CURLY_LOOP CURRENCY_EXCHANGE
  CURRENCY_SIGN CURRY_AND_RICE CURVED_STEM_PARAGRAPH_SIGN_ORNAMENT CUSTARD CUSTOMS CYCLONE DAGGER
  DAGGER_KNIFE DALET_SYMBOL DANCER DANGO DARK_SHADE DARK_SUNGLASSES
  DASHED_TRIANGLE-HEADED_RIGHTWARDS_ARROW DASH_SYMBOL DATA_LINK_ESCAPE DC1 DC2 DC3 DC4 DCS
  DECIDUOUS_TREE DECREASE_FONT_SIZE_SYMBOL DEGREE_CELSIUS DEGREE_FAHRENHEIT DEGREE_SIGN DEL DELETE
  DELIVERY_TRUCK DELTA_EQUAL_TO DEPARTMENT_STORE DERELICT_HOUSE_BUILDING DESCENDING_NODE DESERT
  DESERT_ISLAND DESKTOP_COMPUTER DESKTOP_WINDOW DIAERESIS DIAMOND_OPERATOR
  DIAMOND_SHAPE_WITH_A_DOT_INSIDE DIESEL_LOCOMOTIVE DIFFERENCE_BETWEEN
  DINGBAT_CIRCLED_SANS-SERIF_NUMBER_TEN DINGBAT_NEGATIVE_CIRCLED_NUMBER_TEN
  DINGBAT_NEGATIVE_CIRCLED_SANS-SERIF_NUMBER_TEN DIRECT_HIT DISABLED_CAR
  DISAPPOINTED_BUT_RELIEVED_FACE DISAPPOINTED_FACE DIVIDES DIVISION_SIGN DIVISION_SLASH
  DIVISION_TIMES DIVORCE_SYMBOL DIZZY_FACE DIZZY_SYMBOL DLE DOCUMENT DOCUMENT_WITH_PICTURE
  DOCUMENT_WITH_TEXT DOCUMENT_WITH_TEXT_AND_PICTURE DOG DOG_FACE DOLLAR_SIGN DOLPHIN DONG_SIGN
  DOOR DOTTED_CIRCLE DOTTED_CROSS DOT_MINUS DOT_OPERATOR DOT_PLUS DOUBLE-STRUCK_ITALIC_CAPITAL_D
  DOUBLED_FEMALE_SIGN DOUBLED_MALE_SIGN DOUGHNUT DOVE_OF_PEACE DOWN-POINTING_RED_TRIANGLE
  DOWN-POINTING_SMALL_RED_TRIANGLE DOWNWARDS_ARROW_FROM_BAR
  DOWNWARDS_ARROW_LEFTWARDS_OF_UPWARDS_ARROW DOWN_RIGHT_DIAGONAL_ELLIPSIS DOWN_TACK
  DO_NOT_LITTER_SYMBOL DRACHMA_SIGN DRAFTING_POINT_RIGHTWARDS_ARROW DRAGON DRAGON_FACE DRESS
  DRIVE_SLOW_SIGN DROMEDARY_CAMEL DROOLING_FACE DROPLET DVD E-MAIL_SYMBOL EAR EARTH
  EARTH_GLOBE_AMERICAS EARTH_GLOBE_ASIA-AUSTRALIA EARTH_GLOBE_EUROPE-AFRICA EAR_OF_MAIZE
  EAR_OF_RICE EAST_SYRIAC_CROSS EIGHTH_NOTE ELECTRIC_LIGHT_BULB ELECTRIC_PLUG ELECTRIC_TORCH
  ELEMENT_OF ELEPHANT ELEVATOR EM_DASH EM_QUAD EM_SPACE END_WITH_LEFTWARDS_ARROW_ABOVE ENQ ENQUIRY
  ENVELOPE ENVELOPE_WITH_DOWNWARDS_ARROW_ABOVE ENVELOPE_WITH_LIGHTNING EN_DASH EN_QUAD EN_SPACE
  EOL EOM EOT EQUALS_COLON EQUALS_SIGN EQUAL_AND_PARALLEL_TO EQUAL_TO_BY_DEFINITION EQUIANGULAR_TO
  EQUIVALENT_TO ESC ESCAPE ESTIMATED_SYMBOL ESTIMATES ETB ETX EULER_CONSTANT EURO-CURRENCY_SIGN
  EUROPEAN_CASTLE EUROPEAN_POST_OFFICE EURO_SIGN EVERGREEN_TREE EXCESS EXCLAMATION_MARK
  EXCLAMATION_QUESTION_MARK EXPRESSIONLESS_FACE EXTRATERRESTRIAL_ALIEN EYE EYEGLASSES EYES
  FACSIMILE_SIGN FACTORY FALLEN_LEAF FALLING_DIAGONAL_IN_WHITE_CIRCLE_IN_BLACK_SQUARE FAMILY
  FARSI_SYMBOL FATHER_CHRISTMAS FAX_ICON FAX_MACHINE FEARFUL_FACE FEMALE_SIGN
  FEMININE_ORDINAL_INDICATOR FENCER FERRIS_WHEEL FERRY FF FIELD_HOCKEY_STICK_AND_BALL FIGURE_DASH
  FIGURE_SPACE FILE_CABINET FILE_FOLDER FILE_SEPARATOR FILM_FRAMES FILM_PROJECTOR FIRE FIREWORKS
  FIREWORK_SPARKLER FIRE_ENGINE FISH FISHEYE FISHING_POLE_AND_FISH FISH_CAKE_WITH_SWIRL_DESIGN
  FISTED_HAND_SIGN FIVE_DOT_PUNCTUATION FLAG_IN_HOLE FLEUR-DE-LIS FLEXED_BICEPS FLOPPY_DISK
  FLORAL_HEART FLOWER FLOWER_PLAYING_CARDS FLOWER_PUNCTUATION_MARK FLUSHED_FACE FLYING_ENVELOPE
  FLYING_SAUCER FOG FOGGY FOLDER FOOTPRINTS FORCES FORK_AND_KNIFE FORK_AND_KNIFE_WITH_PLATE
  FORM_FEED FOR_ALL FOUNTAIN FOUR-PER-EM_SPACE FOURTH_ROOT FRACTION_SLASH FRAME_WITH_AN_X
  FRAME_WITH_PICTURE FRAME_WITH_TILES FRENCH_FRANC_SIGN FRENCH_FRIES FRIED_SHRIMP FROG_FACE
  FRONT-FACING_BABY_CHICK FRONT-TILTED_SHADOWED_WHITE_RIGHTWARDS_ARROW
  FROWNING_FACE_WITH_OPEN_MOUTH FS FSI FUEL_PUMP FUNCTION_APPLICATION FUNERAL_URN GAME_DIE GEAR
  GEAR_WITHOUT_HUB GEAR_WITH_HANDLES GEMINI GEM_STONE GEOMETRICALLY_EQUAL_TO
  GEOMETRICALLY_EQUIVALENT_TO GEOMETRIC_PROPORTION GERMAN_PENNY_SIGN GHOST GIMEL_SYMBOL GIRL
  GIRLS_SYMBOL GLOBE_WITH_MERIDIANS GLOWING_STAR GOAT GOLFER GRADUATION_CAP GRAPES GRAVE_ACCENT
  GREEN_APPLE GREEN_BOOK GREEN_HEART GRIMACING_FACE GROUP_SEPARATOR GROWING_HEART GS GUARANI_SIGN
  GUARDSMAN GUITAR HAIRCUT HAIR_SPACE HAMBURGER HAMMER HAMMER_AND_PICK HAMMER_AND_SICKLE
  HAMMER_AND_WRENCH HAMSTER_FACE HANDBAG HANDSHAKE HAND_WITH_INDEX_AND_MIDDLE_FINGERS_CROSSED
  HAPPY_PERSON_RAISING_ONE_HAND HARD_DISK HATCHING_CHICK HEADPHONE HEADSTONE_GRAVEYARD_SYMBOL
  HEAR-NO-EVIL_MONKEY HELICOPTER HELMET_WITH_WHITE_CROSS HERB HERMITIAN_CONJUGATE_MATRIX HIBISCUS
  HIGH-HEELED_SHOE HIGH-SPEED_TRAIN HIGH-SPEED_TRAIN_WITH_BULLET_NOSE HIGH_BRIGHTNESS_SYMBOL
  HIGH_OCTET_PRESET HIGH_VOLTAGE_SIGN HINDU_TEMPLE HISTORIC_SITE HOCHO HOLE HOMOTHETIC HONEYBEE
  HONEY_POT HOP HORSE HORSE_FACE HORSE_RACING HOSPITAL HOTEL HOUSE_BUILDING HOUSE_BUILDINGS
  HOUSE_WITH_GARDEN HRYVNIA_SIGN HT HUGGING_FACE HUNDRED_POINTS_SYMBOL HUSHED_FACE HUT HYPHEN
  HYPHEN-MINUS HYPHENATION_POINT HYPHEN_BULLET ICE_CREAM ICE_HOCKEY_STICK_AND_PUCK ICE_SKATE
  IDENTICAL_TO IDEOGRAPHIC_COMMA IDEOGRAPHIC_FULL_STOP IDEOGRAPHIC_SPACE IMAGE_OF
  IMAGE_OF_OR_APPROXIMATELY_EQUAL_TO IMP INBOX_TRAY INCOMING_ENVELOPE INCREASE_FONT_SIZE_SYMBOL
  INCREMENT IND INDEX INDIAN_RUPEE_SIGN INFINITY INFORMATION_DESK_PERSON INFORMATION_SOURCE
  INHIBIT_ARABIC_FORM_SHAPING INHIBIT_SYMMETRIC_SWAPPING INTEGRAL INTERCALATE
  INTERLOCKED_FEMALE_AND_MALE_SIGN INTERROBANG INTERSECTION INVERSE_BULLET INVERSE_WHITE_CIRCLE
  INVISIBLE_PLUS INVISIBLE_SEPARATOR INVISIBLE_TIMES IZAKAYA_LANTERN I_LOVE_YOU_HAND_SIGN
  JACK-O-LANTERN JEANS JOYSTICK JUGGLING JUNO JUPITER KAABA KELVIN_SIGN KEY KEYBOARD_AND_MOUSE
  KEYCAP_TEN KIMONO KIP_SIGN KISS KISS_MARK KOALA LABEL LADY_BEETLE LARI_SIGN LAST_QUARTER_MOON
  LAST_QUARTER_MOON_SYMBOL LAST_QUARTER_MOON_WITH_FACE LATIN_CAPITAL_LIGATURE_IJ
  LATIN_CAPITAL_LIGATURE_OE LATIN_CROSS LATIN_SMALL_LIGATURE_IJ LATIN_SMALL_LIGATURE_OE
  LEAF_FLUTTERING_IN_WIND LEDGER LEFT-FACING_FIST LEFT-HANDED_INTERLACED_PENTAGRAM
  LEFT-POINTING_DOUBLE_ANGLE_QUOTATION_MARK LEFT-POINTING_MAGNIFYING_GLASS
  LEFT-SHADED_WHITE_RIGHTWARDS_ARROW LEMON LEO LEOPARD LEVEL_SLIDER LF LIBRA LIGHTNING
  LIGHTNING_MOOD LIGHTNING_MOOD_BUBBLE LINE_FEED LINE_SEPARATOR LINE_TABULATION LINKED_PAPERCLIPS
  LINK_SYMBOL LIPS LIPSTICK LIRA_SIGN LIVRE_TOURNOIS_SIGN LOCK LOCKING-SHIFT_ONE
  LOCKING-SHIFT_ZERO LOCK_WITH_INK_PEN LOGICAL_AND LOGICAL_OR LOLLIPOP LOUDLY_CRYING_FACE
  LOVE_HOTEL LOVE_LETTER LOW_ASTERISK LOW_BRIGHTNESS_SYMBOL LOW_LINE LOZENGE LRE LRI LRM LRO
  LYING_FACE L_B_BAR_SYMBOL MACRON MALTESE_CROSS MAN MANAT_SIGN MANS_SHOE MANTELPIECE_CLOCK
  MAPLE_LEAF MAP_SYMBOL_FOR_LIGHTHOUSE MARRIAGE_SYMBOL MASCULINE_ORDINAL_INDICATOR MAXIMIZE
  MEASURED_ANGLE MEASURED_BY MEAT_ON_BONE MELON MEMO MENORAH_WITH_NINE_BRANCHES MENS_SYMBOL
  MERCURY METRO MICROPHONE MICROSCOPE MICRO_SIGN MIDDLE_DOT MIDLINE_HORIZONTAL_ELLIPSIS
  MILITARY_MEDAL MILKY_WAY MILL_SIGN MINIBUS MINIDISC MINIMIZE MINUS-OR-PLUS_SIGN MINUS_SIGN
  MINUS_TILDE MMSP MOBILE_PHONE MOBILE_PHONE_OFF MOBILE_PHONE_WITH_RIGHTWARDS_ARROW_AT_LEFT MODELS
  MONEY-MOUTH_FACE MONEY_BAG MONEY_WITH_WINGS MONKEY MONKEY_FACE MONOGRAM_FOR_YANG
  MONOGRAM_FOR_YIN MONORAIL MOOD_BUBBLE MOON_VIEWING_CEREMONY MOSQUE MOTHER_CHRISTMAS MOTORWAY
  MOTOR_BOAT MOTOR_SCOOTER MOUNTAIN MOUNTAIN_BICYCLIST MOUNTAIN_CABLEWAY MOUNTAIN_RAILWAY
  MOUNT_FUJI MOUSE MOUSE_FACE MOUTH MOVIE_CAMERA MOYAI MUCH_GREATER-THAN MUCH_LESS-THAN MULTIMAP
  MULTIPLE_MUSICAL_NOTES MULTIPLICATION_SIGN MULTIPLICATION_X MULTISET MULTISET_MULTIPLICATION
  MULTISET_UNION MUSHROOM MUSIC_FLAT_SIGN MUSIC_NATURAL_SIGN MUSIC_SHARP_SIGN NABLA NAIL_POLISH
  NAIRA_SIGN NAK NAME_BADGE NAND NARROW_NO-BREAK_SPACE NATIONAL_DIGIT_SHAPES NATIONAL_PARK
  NAUSEATED_FACE NBH NBSP NECKTIE NEGATED_DOUBLE_VERTICAL_BAR_DOUBLE_RIGHT_TURNSTILE
  NEGATIVE_ACKNOWLEDGE NEGATIVE_SQUARED_CROSS_MARK NEL NEPTUNE NERD_FACE NEUTER NEUTRAL_FACE
  NEWSPAPER NEXT_LINE NIGHT_WITH_STARS NL NNBSP NO-BREAK_SPACE NOMINAL_DIGIT_SHAPES
  NON-BREAKING_HYPHEN NON-POTABLE_WATER_SYMBOL NOR NORDIC_MARK_SIGN NORMAL_SUBGROUP_OF
  NORMAL_SUBGROUP_OF_OR_EQUAL_TO NORTHEAST-POINTING_AIRPLANE NORTH_EAST_ARROW
  NORTH_EAST_DOUBLE_ARROW NOSE NOTE NOTEBOOK NOTEBOOK_WITH_DECORATIVE_COVER NOTE_PAD NOTE_PAGE NUL
  NULL NUMBER_SIGN NUMERO_SIGN NUT_AND_BOLT OBJECT_REPLACEMENT_CHARACTER OCTAGONAL_SIGN OCTOPUS
  ODEN OFFICE_BUILDING OHM_SIGN OIL_DRUM OK_HAND_SIGN OLDER_MAN OLDER_WOMAN OLD_KEY
  OLD_PERSONAL_COMPUTER OM_SYMBOL ONE_BUTTON_MOUSE ONE_DOT_LEADER
  ON_WITH_EXCLAMATION_MARK_WITH_LEFT_RIGHT_ARROW_ABOVE OPEN-OUTLINED_RIGHTWARDS_ARROW
  OPERATING_SYSTEM_COMMAND OPHIUCHUS OPPOSITION OPTICAL_DISC OPTICAL_DISC_ICON ORANGE_BOOK
  ORIGINAL_OF ORTHODOX_CROSS OSC OUNCE_SIGN OUTBOX_TRAY OVERLAP OVERLINE OX PACKAGE PAD
  PADDING_CHARACTER PAGE PAGER PAGES PAGE_FACING_UP PAGE_WITH_CIRCLED_TEXT PAGE_WITH_CURL PAGODA
  PALLAS PALMS_UP_TOGETHER PALM_TREE PANDA_FACE PAPERCLIP PARAGRAPH_SEPARATOR PARALLEL_TO
  PARTIALLY-RECYCLED_PAPER_SYMBOL PARTIAL_DIFFERENTIAL PARTY_POPPER PASSENGER_SHIP
  PASSPORT_CONTROL PAW_PRINTS PDF PDI PEACE_SYMBOL PEACH PEAR PEDESTRIAN PENCIL PENGUIN
  PENSIVE_FACE PENTAGRAM PEN_OVER_STAMPED_ENVELOPE PERCENT_SIGN PERFORMING_ARTS
  PERMANENT_PAPER_SIGN PERSEVERING_FACE PERSONAL_COMPUTER PER_MILLE_SIGN PER_SIGN
  PER_TEN_THOUSAND_SIGN PESETA_SIGN PESO_SIGN PICK PICKUP_TRUCK PIG PIG_FACE PIG_NOSE PILCROW_SIGN
  PILE_OF_POO PILL PINEAPPLE PINE_DECORATION PINWHEEL_STAR PISCES PISTOL PITCHFORK
  PLACE_OF_WORSHIP PLANCK_CONSTANT PLANCK_CONSTANT_OVER_TWO_PI PLAYGROUND_SLIDE PLUS-MINUS_SIGN
  PLUS_SIGN PLUTO PM POCKET_CALCULATOR POLICE_CAR POLICE_CARS_REVOLVING_LIGHT POLICE_OFFICER
  POODLE POPCORN POP_DIRECTIONAL_FORMATTING POP_DIRECTIONAL_ISOLATE PORTABLE_STEREO POSTAL_HORN
  POSTBOX POTABLE_WATER_SYMBOL POT_OF_FOOD POUCH POULTRY_LEG POUND_SIGN POUTING_CAT_FACE
  POUTING_FACE PRAYER_BEADS PRECEDES PREGNANT_WOMAN PRESCRIPTION_TAKE PRIME PRINCE PRINCESS
  PRINTER PRINTER_ICON PROHIBITED_SIGN PROPERTY_LINE PROPORTION PROPORTIONAL_TO
  PUBLIC_ADDRESS_LOUDSPEAKER PUNCTUATION_SPACE PURPLE_HEART PURSE PUSHPIN
  PUT_LITTER_IN_ITS_PLACE_SYMBOL QUADRANT_LOWER_LEFT QUADRANT_LOWER_RIGHT QUADRUPLE_PRIME
  QUARTER_NOTE QUESTIONED_EQUAL_TO QUESTION_EXCLAMATION_MARK QUESTION_MARK QUINCUNX QUOTATION_MARK
  RABBIT RABBIT_FACE RACING_CAR RACING_MOTORCYCLE RADIO RADIOACTIVE_SIGN RADIO_BUTTON RAILWAY_CAR
  RAILWAY_TRACK RAIN RAINBOW RAM RAT RATIO RECORD_SEPARATOR RECREATIONAL_VEHICLE
  RECYCLED_PAPER_SYMBOL RED_APPLE REFERENCE_MARK REGISTERED_SIGN RELIEVED_FACE REMINDER_RIBBON
  REPLACEMENT_CHARACTER RESPONSE RESTRICTED_LEFT_ENTRY-1 RESTRICTED_LEFT_ENTRY-2 RESTROOM
  REVERSE_INDEX REVERSE_LINE_FEED REVERSE_SOLIDUS REVOLVING_HEARTS RI RIBBON RICE_BALL
  RICE_CRACKER RIGHT-FACING_FIST RIGHT-HANDED_INTERLACED_PENTAGRAM
  RIGHT-POINTING_DOUBLE_ANGLE_QUOTATION_MARK RIGHT-POINTING_MAGNIFYING_GLASS
  RIGHT-SHADED_WHITE_RIGHTWARDS_ARROW RING RINGING_BELL RLE RLI RLM RLO ROASTED_SWEET_POTATO
  ROBOT_FACE ROCKET ROLLED-UP_NEWSPAPER ROLLER_COASTER ROLLER_SKATE ROLLING_ON_THE_FLOOR_LAUGHING
  ROOSTER ROSE ROSETTE ROTATED_CAPITAL_Q ROTATED_FLORAL_HEART_BULLET
  ROTATED_HEAVY_BLACK_HEART_BULLET ROUND_PUSHPIN ROWBOAT RS RUBLE_SIGN RUGBY_FOOTBALL RUNNER
  RUNNING_SHIRT_WITH_SASH RUPEE_SIGN SAGITTARIUS SAILBOAT SAKE_BOTTLE_AND_CUP SALTIRE SATELLITE
  SATELLITE_ANTENNA SATURN SAXOPHONE SCALES SCHOOL SCHOOL_SATCHEL SCOOTER SCORPIUS SCREEN SCROLL
  SCRUPLE SEAT SECTION_SIGN SEE-NO-EVIL_MONKEY SEEDLING SELFIE SEMICOLON SEMISEXTILE
  SERIOUS_FACE_WITH_SYMBOLS_COVERING_MOUTH SERVICE_MARK SESQUIQUADRATE SET_MINUS SEXTILE
  SHADOWED_WHITE_CIRCLE SHADOWED_WHITE_LATIN_CROSS SHADOWED_WHITE_STAR SHAMROCK SHAVED_ICE SHEEP
  SHIELD SHIFT_IN SHIFT_OUT SHINTO_SHRINE SHIP SHOCKED_FACE_WITH_EXPLODING_HEAD SHOOTING_STAR
  SHOPPING_BAGS SHOPPING_TROLLEY SHORTCAKE SHOWER SHRUG SHY SI SIGN_OF_THE_HORNS
  SILHOUETTE_OF_JAPAN SINE_WAVE SIX-PER-EM_SPACE SIXTEEN_POINTED_ASTERISK
  SIX_PETALLED_BLACK_AND_WHITE_FLORETTE SIX_POINTED_BLACK_STAR SIX_POINTED_STAR_WITH_MIDDLE_DOT
  SKATEBOARD SKIER SKI_AND_SKI_BOOT SKULL SKULL_AND_CROSSBONES SLED SLEEPING_ACCOMMODATION
  SLEEPING_FACE SLEEPING_SYMBOL SLEEPY_FACE SLEUTH_OR_SPY SLICE_OF_PIZZA SLIGHTLY_FROWNING_FACE
  SLIGHTLY_SMILING_FACE SLOT_MACHINE SMILING_CAT_FACE_WITH_HEART-SHAPED_EYES
  SMILING_CAT_FACE_WITH_OPEN_MOUTH SMIRKING_FACE SMOKING_SYMBOL SNAIL SNAKE SNEEZING_FACE
  SNOWBOARDER SNOWFLAKE SNOWMAN SNOWMAN_WITHOUT_SNOW SNOW_CAPPED_MOUNTAIN SO SOCCER_BALL
  SOFT_HYPHEN SOFT_ICE_CREAM SOFT_SHELL_FLOPPY_DISK SOH SOLIDUS SOM_SIGN
  SOON_WITH_RIGHTWARDS_ARROW_ABOVE SOS SOUND_RECORDING_COPYRIGHT SP SPACE SPAGHETTI SPARKLE
  SPARKLES SPARKLING_HEART SPEAK-NO-EVIL_MONKEY SPEAKER SPEAKER_WITH_CANCELLATION_STROKE
  SPEAKER_WITH_ONE_SOUND_WAVE SPEAKER_WITH_THREE_SOUND_WAVES SPEAKING_HEAD_IN_SILHOUETTE
  SPEECH_BALLOON SPEEDBOAT SPESMILO_SIGN SPHERICAL_ANGLE SPIDER SPIDER_WEB SPIRAL_CALENDAR_PAD
  SPIRAL_NOTE_PAD SPIRAL_SHELL SPLASHING_SWEAT_SYMBOL SPORTS_MEDAL SPOUTING_WHALE
  SQUAT_BLACK_RIGHTWARDS_ARROW ST STADIUM STAFF_OF_AESCULAPIUS STAFF_OF_HERMES STAMPED_ENVELOPE
  START_OF_HEADING START_OF_STRING START_OF_TEXT STATION STATUE_OF_LIBERTY STEAMING_BOWL
  STEAM_LOCOMOTIVE STOCK_CHART STRAIGHT_RULER STRAWBERRY STRESS_OUTLINED_WHITE_STAR
  STRICTLY_EQUIVALENT_TO STRING_TERMINATOR STUDIO_MICROPHONE STUPA STX SUB SUBSET_OF
  SUBSET_OF_OR_EQUAL_TO SUBSET_OF_WITH_NOT_EQUAL_TO SUBSTITUTE SUCCEEDS SUN SUNFLOWER SUNRISE
  SUNRISE_OVER_MOUNTAINS SUNSET_OVER_BUILDINGS SUN_BEHIND_CLOUD SUN_WITH_FACE SUPERSCRIPT_ONE
  SUPERSCRIPT_THREE SUPERSCRIPT_TWO SUPERSET_OF SUPERSET_OF_OR_EQUAL_TO
  SUPERSET_OF_WITH_NOT_EQUAL_TO SURFACE_INTEGRAL SURFER SUSHI SUSPENSION_RAILWAY SWIMMER
  SWUNG_DASH SYMBOL_FOR_MARKS_CHAPTER SYMBOL_FOR_SAMARITAN_SOURCE SYN SYNAGOGUE SYNCHRONOUS_IDLE
  SYRINGE T-SHIRT TAB TABLE_TENNIS_PADDLE_AND_BALL TACO TANABATA_TREE TANGERINE TAPE_CARTRIDGE
  TAPE_DRIVE TAURUS TAXI TEACUP_WITHOUT_HANDLE TEAR-OFF_CALENDAR TEARDROP-BARBED_RIGHTWARDS_ARROW
  TEARDROP-SPOKED_ASTERISK TELESCOPE TELEVISION TENGE_SIGN TENNIS_RACQUET_AND_BALL TENT THEREFORE
  THERE_DOES_NOT_EXIST THERE_EXISTS THERMOMETER THINKING_FACE THIN_SPACE THOUGHT_BALLOON
  THREE-D_BOTTOM-LIGHTED_RIGHTWARDS_ARROWHEAD THREE-D_TOP-LIGHTED_RIGHTWARDS_ARROWHEAD
  THREE-PER-EM_SPACE THUMBS_DOWN_SIGN THUMBS_UP_SIGN THUNDERSTORM THUNDER_CLOUD_AND_RAIN TICKET
  TIGER TIGER_FACE TIGHT_TRIFOLIATE_SNOWFLAKE TILDE TILDE_OPERATOR TIRED_FACE TIRONIAN_SIGN_ET
  TOILET TOKYO_TOWER TOMATO TONGUE TOP_HAT TOP_WITH_UPWARDS_ARROW_ABOVE TRACKBALL TRACTOR
  TRADE_MARK_SIGN TRAIN TRAM TRAM_CAR TRIANGLE-HEADED_RIGHTWARDS_ARROW
  TRIANGLE_WITH_ROUNDED_CORNERS TRIANGULAR_BULLET TRIANGULAR_FLAG_ON_POST TRIANGULAR_RULER
  TRICOLON TRIDENT_EMBLEM TROLLEYBUS TROPHY TROPICAL_DRINK TROPICAL_FISH TRUE TRUMPET TUGRIK_SIGN
  TULIP TURKISH_LIRA_SIGN TURTLE TWELVE_POINTED_BLACK_STAR TWISTED_RIGHTWARDS_ARROWS UMBRELLA
  UMBRELLA_ON_GROUND UMBRELLA_WITH_RAIN_DROPS UNAMUSED_FACE UNDERTIE UNION UNIT_SEPARATOR
  UNIVERSAL_RECYCLING_SYMBOL UNMARRIED_PARTNERSHIP_SYMBOL UPSIDE-DOWN_FACE
  UP_RIGHT_DIAGONAL_ELLIPSIS UP_TACK URANUS US VERSICLE VERY_MUCH_GREATER-THAN VERY_MUCH_LESS-THAN
  VESTA VIBRATION_MODE VICTORY_HAND VIDEOCASSETTE VIDEO_CAMERA VIDEO_GAME VIOLIN VIRGO VOLCANO
  VOLLEYBALL VOLUME_INTEGRAL VS15 VS16 VT VULGAR_FRACTION_ONE_HALF VULGAR_FRACTION_ONE_QUARTER
  VULGAR_FRACTION_THREE_QUARTERS WANING_CRESCENT_MOON_SYMBOL WANING_GIBBOUS_MOON_SYMBOL
  WARNING_SIGN WASTEBASKET WATERMELON WATER_BUFFALO WATER_CLOSET WATER_WAVE WAVING_BLACK_FLAG
  WAVING_HAND_SIGN WAVING_WHITE_FLAG WAXING_CRESCENT_MOON_SYMBOL WAXING_GIBBOUS_MOON_SYMBOL
  WEARY_CAT_FACE WEARY_FACE WEDDING WEDGE-TAILED_RIGHTWARDS_ARROW WEIERSTRASS_ELLIPTIC_FUNCTION
  WEIGHT_LIFTER WEST_SYRIAC_CROSS WHALE WHEEL WHEELCHAIR_SYMBOL WHEEL_OF_DHARMA
  WHITE-FEATHERED_RIGHTWARDS_ARROW WHITE_SQUARE_BUTTON WHITE_SQUARE_CONTAINING_BLACK_SMALL_SQUARE
  WIND_BLOWING_FACE WIND_CHIME WINE_GLASS WINKING_FACE WIRED_KEYBOARD WJ WOLF_FACE WOMAN
  WOMAN_WITH_BUNNY_EARS WOMENS_SYMBOL WON_SIGN WORD_JOINER WORLD_MAP WORRIED_FACE WRAPPED_PRESENT
  WREATH_PRODUCT WRENCH WRITING_HAND XOR YELLOW_HEART YEN_SIGN YIN_YANG ZIPPER-MOUTH_FACE ZWJ
  ZWNBSP ZWNJ ZWSP Z_NOTATION_BAG_MEMBERSHIP"

/-- The families, each with what its names add to the words they share. -/
def families : List (String × String) := [
  ("ANTICLOCKWISE", "
    CONTOUR_INTEGRAL DOWNWARDS_AND_UPWARDS_OPEN_CIRCLE_ARROWS OPEN_CIRCLE_ARROW
    TOP_SEMICIRCLE_ARROW"),
  ("BABY", "ANGEL BOTTLE CHICK SYMBOL"),
  ("BALLOT", "BOLD_SCRIPT_X BOX SCRIPT_X X"),
  ("BALLOT BOX WITH", "BALLOT BOLD_CHECK BOLD_SCRIPT_X CHECK SCRIPT_X X"),
  ("BANKNOTE WITH", "DOLLAR_SIGN EURO_SIGN POUND_SIGN YEN_SIGN"),
  ("BEAMED", "ASCENDING_MUSICAL_NOTES DESCENDING_MUSICAL_NOTES EIGHTH_NOTES SIXTEENTH_NOTES"),
  ("BLACK", "
    CENTRE_WHITE_STAR CIRCLE CIRCLE_WITH_TWO_WHITE_DOTS CIRCLE_WITH_WHITE_DOT_RIGHT CLUB_SUIT
    CROSS_ON_SHIELD DIAMOND DIAMOND_MINUS_WHITE_X DIAMOND_SUIT DOWN-POINTING_SMALL_TRIANGLE
    DOWN-POINTING_TRIANGLE DOWN_POINTING_BACKHAND_INDEX DRAUGHTS_KING DRAUGHTS_MAN DROPLET FLAG
    FLORETTE FOLDER FOUR_POINTED_STAR HARD_SHELL_FLOPPY_DISK HEART HEART_SUIT
    LEFT-POINTING_POINTER LEFT-POINTING_SMALL_TRIANGLE LEFT-POINTING_TRIANGLE LEFTWARDS_BULLET
    LEFT_LANE_MERGE LEFT_POINTING_BACKHAND_INDEX LEFT_POINTING_INDEX LOWER_LEFT_TRIANGLE
    LOWER_RIGHT_TRIANGLE MEDIUM_SMALL_SQUARE MEDIUM_SQUARE MOON_LILITH NIB PARALLELOGRAM PENNANT
    PUSHPIN QUESTION_MARK_ORNAMENT RECTANGLE RIGHT-POINTING_POINTER RIGHT-POINTING_SMALL_TRIANGLE
    RIGHT-POINTING_TRIANGLE RIGHTWARDS_ARROW RIGHTWARDS_ARROWHEAD RIGHTWARDS_BULLET
    RIGHT_POINTING_BACKHAND_INDEX RIGHT_POINTING_INDEX ROSETTE SAFETY_SCISSORS SCISSORS
    SHOGI_PIECE SKULL_AND_CROSSBONES SMALL_SQUARE SMILING_FACE SNOWMAN SPADE_SUIT SQUARE
    SQUARE_BUTTON STAR SUN_WITH_RAYS TELEPHONE TOUCHTONE_TELEPHONE TRUCK TWO-WAY_LEFT_WAY_TRAFFIC
    UNIVERSAL_RECYCLING_SYMBOL UP-POINTING_SMALL_TRIANGLE UP-POINTING_TRIANGLE UPPER_LEFT_TRIANGLE
    UPPER_RIGHT_TRIANGLE UP_POINTING_BACKHAND_INDEX VERTICAL_RECTANGLE"),
  ("BLACK CHESS", "BISHOP KING KNIGHT PAWN QUEEN ROOK"),
  ("BLACK-LETTER CAPITAL", "C H I R Z"),
  ("BOX DRAWINGS DOUBLE", "
    DOWN_AND_HORIZONTAL DOWN_AND_LEFT DOWN_AND_RIGHT HORIZONTAL UP_AND_HORIZONTAL UP_AND_LEFT
    UP_AND_RIGHT VERTICAL VERTICAL_AND_HORIZONTAL VERTICAL_AND_LEFT VERTICAL_AND_RIGHT"),
  ("BOX DRAWINGS DOWN", "
    DOUBLE_AND_HORIZONTAL_SINGLE DOUBLE_AND_LEFT_SINGLE DOUBLE_AND_RIGHT_SINGLE
    SINGLE_AND_HORIZONTAL_DOUBLE SINGLE_AND_LEFT_DOUBLE SINGLE_AND_RIGHT_DOUBLE"),
  ("BOX DRAWINGS DOWN HEAVY AND", "
    HORIZONTAL_LIGHT LEFT_LIGHT LEFT_UP_LIGHT RIGHT_LIGHT RIGHT_UP_LIGHT UP_HORIZONTAL_LIGHT"),
  ("BOX DRAWINGS DOWN LIGHT AND", "
    HORIZONTAL_HEAVY LEFT_HEAVY LEFT_UP_HEAVY RIGHT_HEAVY RIGHT_UP_HEAVY UP_HORIZONTAL_HEAVY"),
  ("BOX DRAWINGS HEAVY", "
    DOUBLE_DASH_HORIZONTAL DOUBLE_DASH_VERTICAL DOWN DOWN_AND_HORIZONTAL DOWN_AND_LEFT
    DOWN_AND_RIGHT HORIZONTAL LEFT LEFT_AND_LIGHT_RIGHT QUADRUPLE_DASH_HORIZONTAL
    QUADRUPLE_DASH_VERTICAL RIGHT TRIPLE_DASH_HORIZONTAL TRIPLE_DASH_VERTICAL UP VERTICAL
    VERTICAL_AND_HORIZONTAL VERTICAL_AND_LEFT VERTICAL_AND_RIGHT"),
  ("BOX DRAWINGS HEAVY UP AND", "HORIZONTAL LEFT LIGHT_DOWN RIGHT"),
  ("BOX DRAWINGS LEFT", "
    DOWN_HEAVY_AND_RIGHT_UP_LIGHT HEAVY_AND_RIGHT_DOWN_LIGHT HEAVY_AND_RIGHT_UP_LIGHT
    HEAVY_AND_RIGHT_VERTICAL_LIGHT LIGHT_AND_RIGHT_DOWN_HEAVY LIGHT_AND_RIGHT_UP_HEAVY
    LIGHT_AND_RIGHT_VERTICAL_HEAVY UP_HEAVY_AND_RIGHT_DOWN_LIGHT"),
  ("BOX DRAWINGS LIGHT", "
    ARC_DOWN_AND_LEFT ARC_DOWN_AND_RIGHT ARC_UP_AND_LEFT ARC_UP_AND_RIGHT DIAGONAL_CROSS
    DIAGONAL_UPPER_LEFT_TO_LOWER_RIGHT DIAGONAL_UPPER_RIGHT_TO_LOWER_LEFT DOUBLE_DASH_HORIZONTAL
    DOUBLE_DASH_VERTICAL DOWN DOWN_AND_HORIZONTAL DOWN_AND_LEFT DOWN_AND_RIGHT HORIZONTAL LEFT
    LEFT_AND_HEAVY_RIGHT QUADRUPLE_DASH_HORIZONTAL QUADRUPLE_DASH_VERTICAL RIGHT
    TRIPLE_DASH_HORIZONTAL TRIPLE_DASH_VERTICAL UP VERTICAL VERTICAL_AND_HORIZONTAL
    VERTICAL_AND_LEFT VERTICAL_AND_RIGHT"),
  ("BOX DRAWINGS LIGHT UP AND", "HEAVY_DOWN HORIZONTAL LEFT RIGHT"),
  ("BOX DRAWINGS RIGHT", "
    DOWN_HEAVY_AND_LEFT_UP_LIGHT HEAVY_AND_LEFT_DOWN_LIGHT HEAVY_AND_LEFT_UP_LIGHT
    HEAVY_AND_LEFT_VERTICAL_LIGHT LIGHT_AND_LEFT_DOWN_HEAVY LIGHT_AND_LEFT_UP_HEAVY
    LIGHT_AND_LEFT_VERTICAL_HEAVY UP_HEAVY_AND_LEFT_DOWN_LIGHT"),
  ("BOX DRAWINGS UP", "
    DOUBLE_AND_HORIZONTAL_SINGLE DOUBLE_AND_LEFT_SINGLE DOUBLE_AND_RIGHT_SINGLE
    SINGLE_AND_HORIZONTAL_DOUBLE SINGLE_AND_LEFT_DOUBLE SINGLE_AND_RIGHT_DOUBLE"),
  ("BOX DRAWINGS UP HEAVY AND", "
    DOWN_HORIZONTAL_LIGHT HORIZONTAL_LIGHT LEFT_DOWN_LIGHT LEFT_LIGHT RIGHT_DOWN_LIGHT
    RIGHT_LIGHT"),
  ("BOX DRAWINGS UP LIGHT AND", "
    DOWN_HORIZONTAL_HEAVY HORIZONTAL_HEAVY LEFT_DOWN_HEAVY LEFT_HEAVY RIGHT_DOWN_HEAVY
    RIGHT_HEAVY"),
  ("BOX DRAWINGS VERTICAL", "
    DOUBLE_AND_HORIZONTAL_SINGLE DOUBLE_AND_LEFT_SINGLE DOUBLE_AND_RIGHT_SINGLE
    HEAVY_AND_HORIZONTAL_LIGHT HEAVY_AND_LEFT_LIGHT HEAVY_AND_RIGHT_LIGHT
    LIGHT_AND_HORIZONTAL_HEAVY LIGHT_AND_LEFT_HEAVY LIGHT_AND_RIGHT_HEAVY
    SINGLE_AND_HORIZONTAL_DOUBLE SINGLE_AND_LEFT_DOUBLE SINGLE_AND_RIGHT_DOUBLE"),
  ("CIRCLE WITH", "
    ALL_BUT_UPPER_LEFT_QUADRANT_BLACK LEFT_HALF_BLACK LOWER_HALF_BLACK RIGHT_HALF_BLACK
    UPPER_HALF_BLACK UPPER_RIGHT_QUADRANT_BLACK VERTICAL_FILL"),
  ("CIRCLED", "
    ASTERISK_OPERATOR CROSSING_LANES CROSS_POMMEE DASH DIVISION_SLASH DOT_OPERATOR EQUALS
    HEAVY_WHITE_RIGHTWARDS_ARROW INFORMATION_SOURCE MINUS OPEN_CENTRE_EIGHT_POINTED_STAR PLUS
    RING_OPERATOR TIMES WHITE_STAR"),
  ("CLOCK FACE", "
    EIGHT-THIRTY EIGHT_OCLOCK ELEVEN-THIRTY ELEVEN_OCLOCK FIVE-THIRTY FIVE_OCLOCK FOUR-THIRTY
    FOUR_OCLOCK NINE-THIRTY NINE_OCLOCK ONE-THIRTY ONE_OCLOCK SEVEN-THIRTY SEVEN_OCLOCK SIX-THIRTY
    SIX_OCLOCK TEN-THIRTY TEN_OCLOCK THREE-THIRTY THREE_OCLOCK TWELVE-THIRTY TWELVE_OCLOCK
    TWO-THIRTY TWO_OCLOCK"),
  ("CLOCKWISE", "
    CONTOUR_INTEGRAL DOWNWARDS_AND_UPWARDS_OPEN_CIRCLE_ARROWS INTEGRAL OPEN_CIRCLE_ARROW
    RIGHTWARDS_AND_LEFTWARDS_OPEN_CIRCLE_ARROWS
    RIGHTWARDS_AND_LEFTWARDS_OPEN_CIRCLE_ARROWS_WITH_CIRCLED_ONE_OVERLAY
    RIGHT_AND_LEFT_SEMICIRCLE_ARROWS TOP_SEMICIRCLE_ARROW"),
  ("CLOSED", "BOOK LOCK_WITH_KEY MAILBOX_WITH_LOWERED_FLAG MAILBOX_WITH_RAISED_FLAG UMBRELLA"),
  ("CLOUD WITH", "LIGHTNING RAIN SNOW TORNADO"),
  ("CONTAINS", "
    AS_MEMBER AS_NORMAL_SUBGROUP AS_NORMAL_SUBGROUP_OR_EQUAL_TO WITH_LONG_HORIZONTAL_STROKE
    WITH_OVERBAR WITH_VERTICAL_BAR_AT_END_OF_HORIZONTAL_STROKE"),
  ("COPTIC CAPITAL LETTER", "DEI FEI GANGIA HORI KHEI SHEI SHIMA"),
  ("COPTIC SMALL LETTER", "DEI FEI GANGIA HORI KHEI SHEI SHIMA"),
  ("CROSS", "MARK OF_JERUSALEM OF_LORRAINE POMMEE POMMEE_WITH_HALF-CIRCLE_BELOW"),
  ("CYRILLIC CAPITAL LETTER", "
    A BE BYELORUSSIAN-UKRAINIAN_I CHE DE DJE DZE DZHE E EF EL EM EN ER ES GHE GJE HA HARD_SIGN I
    IE IE_WITH_GRAVE IO I_WITH_GRAVE JE KA KJE LJE NJE O PE SHA SHCHA SHORT_I SHORT_U SOFT_SIGN TE
    TSE TSHE U UKRAINIAN_IE VE YA YERU YI YU ZE ZHE"),
  ("CYRILLIC SMALL LETTER", "
    A BE BYELORUSSIAN-UKRAINIAN_I CHE DE DJE DZE DZHE E EF EL EM EN ER ES GHE GJE HA HARD_SIGN I
    IE IE_WITH_GRAVE IO I_WITH_GRAVE JE KA KJE LJE NJE O PE SHA SHCHA SHORT_I SHORT_U SOFT_SIGN TE
    TSE TSHE U UKRAINIAN_IE VE YA YERU YI YU ZE ZHE"),
  ("DEVICE CONTROL", "FOUR ONE STRING THREE TWO"),
  ("DIE", "FACE-1 FACE-2 FACE-3 FACE-4 FACE-5 FACE-6"),
  ("DIGIT", "EIGHT FIVE FOUR NINE ONE SEVEN SIX THREE TWO ZERO"),
  ("DIGRAM FOR", "GREATER_YANG GREATER_YIN LESSER_YANG LESSER_YIN"),
  ("DINGBAT CIRCLED SANS-SERIF DIGIT", "EIGHT FIVE FOUR NINE ONE SEVEN SIX THREE TWO"),
  ("DINGBAT NEGATIVE CIRCLED DIGIT", "EIGHT FIVE FOUR NINE ONE SEVEN SIX THREE TWO"),
  ("DINGBAT NEGATIVE CIRCLED SANS-SERIF DIGIT", "EIGHT FIVE FOUR NINE ONE SEVEN SIX THREE TWO"),
  ("DOES NOT", "
    CONTAIN_AS_MEMBER CONTAIN_AS_NORMAL_SUBGROUP CONTAIN_AS_NORMAL_SUBGROUP_OR_EQUAL DIVIDE FORCE
    PRECEDE PRECEDE_OR_EQUAL PROVE SUCCEED SUCCEED_OR_EQUAL"),
  ("DOUBLE", "
    CURLY_LOOP DAGGER EXCLAMATION_MARK HIGH-REVERSED-9_QUOTATION_MARK INTEGRAL INTERSECTION
    LOW-9_QUOTATION_MARK LOW_LINE PRIME QUESTION_MARK SUBSET SUPERSET UNION
    VERTICAL_BAR_DOUBLE_RIGHT_TURNSTILE VERTICAL_LINE"),
  ("DOUBLE-STRUCK", "N-ARY_SUMMATION SMALL_GAMMA SMALL_PI"),
  ("DOUBLE-STRUCK CAPITAL", "C GAMMA H N P PI Q R Z"),
  ("DOUBLE-STRUCK ITALIC SMALL", "D E I J"),
  ("DOWNWARDS", "
    ARROW DASHED_ARROW DOUBLE_ARROW HARPOON_WITH_BARB_LEFTWARDS HARPOON_WITH_BARB_RIGHTWARDS
    PAIRED_ARROWS TWO_HEADED_ARROW WHITE_ARROW ZIGZAG_ARROW"),
  ("DOWNWARDS ARROW WITH", "CORNER_LEFTWARDS DOUBLE_STROKE TIP_LEFTWARDS TIP_RIGHTWARDS"),
  ("EIGHT", "
    PETALLED_OUTLINED_BLACK_FLORETTE POINTED_BLACK_STAR POINTED_PINWHEEL_STAR
    POINTED_RECTILINEAR_BLACK_STAR SPOKED_ASTERISK TEARDROP-SPOKED_PROPELLER_ASTERISK"),
  ("ELEMENT OF WITH", "
    DOT_ABOVE LONG_HORIZONTAL_STROKE OVERBAR TWO_HORIZONTAL_STROKES UNDERBAR
    VERTICAL_BAR_AT_END_OF_HORIZONTAL_STROKE"),
  ("EMOJI MODIFIER FITZPATRICK", "TYPE-1-2 TYPE-3 TYPE-4 TYPE-5 TYPE-6"),
  ("EMPTY", "DOCUMENT NOTE NOTE_PAD NOTE_PAGE PAGE PAGES SET"),
  ("END OF", "LINE MEDIUM PROOF TEXT TRANSMISSION TRANSMISSION_BLOCK"),
  ("EQUAL TO OR", "GREATER-THAN LESS-THAN PRECEDES SUCCEEDS"),
  ("FACE", "
    MASSAGE PALM SAVOURING_DELICIOUS_FOOD SCREAMING_IN_FEAR THROWING_A_KISS WITHOUT_MOUTH"),
  ("FACE WITH", "
    COLD_SWEAT COWBOY_HAT FINGER_COVERING_CLOSED_LIPS HEAD-BANDAGE LOOK_OF_TRIUMPH MEDICAL_MASK
    NO_GOOD_GESTURE OK_GESTURE ONE_EYEBROW_RAISED OPEN_MOUTH OPEN_MOUTH_AND_COLD_SWEAT
    OPEN_MOUTH_VOMITING ROLLING_EYES STUCK-OUT_TONGUE STUCK-OUT_TONGUE_AND_TIGHTLY-CLOSED_EYES
    STUCK-OUT_TONGUE_AND_WINKING_EYE TEARS_OF_JOY THERMOMETER"),
  ("FIRST", "QUARTER_MOON QUARTER_MOON_SYMBOL QUARTER_MOON_WITH_FACE STRONG_ISOLATE"),
  ("FOUR", "
    BALLOON-SPOKED_ASTERISK CLUB-SPOKED_ASTERISK DOT_MARK DOT_PUNCTUATION LEAF_CLOVER
    TEARDROP-SPOKED_ASTERISK"),
  ("FULL", "BLOCK MOON_SYMBOL MOON_WITH_FACE STOP"),
  ("GREATER-THAN", "
    BUT_NOT_EQUAL_TO BUT_NOT_EQUIVALENT_TO EQUAL_TO_OR_LESS-THAN OR_EQUAL_TO OR_EQUIVALENT_TO
    OR_LESS-THAN OVER_EQUAL_TO SIGN WITH_DOT"),
  ("GREEK", "
    ANO_TELEIA BETA_SYMBOL DIALYTIKA_TONOS KAI_SYMBOL KAPPA_SYMBOL LOWER_NUMERAL_SIGN
    LUNATE_EPSILON_SYMBOL LUNATE_SIGMA_SYMBOL NUMERAL_SIGN PHI_SYMBOL PI_SYMBOL QUESTION_MARK
    REVERSED_LUNATE_EPSILON_SYMBOL RHO_SYMBOL RHO_WITH_STROKE_SYMBOL THETA_SYMBOL TONOS
    UPSILON_WITH_ACUTE_AND_HOOK_SYMBOL UPSILON_WITH_DIAERESIS_AND_HOOK_SYMBOL
    UPSILON_WITH_HOOK_SYMBOL YPOGEGRAMMENI"),
  ("GREEK CAPITAL", "
    DOTTED_LUNATE_SIGMA_SYMBOL KAI_SYMBOL LUNATE_SIGMA_SYMBOL REVERSED_DOTTED_LUNATE_SIGMA_SYMBOL
    REVERSED_LUNATE_SIGMA_SYMBOL THETA_SYMBOL"),
  ("GREEK CAPITAL LETTER", "
    ALPHA ALPHA_WITH_TONOS ARCHAIC_SAMPI BETA CHI DELTA EPSILON EPSILON_WITH_TONOS ETA
    ETA_WITH_TONOS GAMMA HETA IOTA IOTA_WITH_DIALYTIKA IOTA_WITH_TONOS KAPPA LAMDA MU NU OMEGA
    OMEGA_WITH_TONOS OMICRON OMICRON_WITH_TONOS PAMPHYLIAN_DIGAMMA PHI PI PSI RHO SAN SHO SIGMA
    TAU THETA UPSILON UPSILON_WITH_DIALYTIKA UPSILON_WITH_TONOS XI YOT ZETA"),
  ("GREEK LETTER", "ARCHAIC_KOPPA DIGAMMA KOPPA SAMPI STIGMA YOT"),
  ("GREEK SMALL", "
    DOTTED_LUNATE_SIGMA_SYMBOL REVERSED_DOTTED_LUNATE_SIGMA_SYMBOL REVERSED_LUNATE_SIGMA_SYMBOL"),
  ("GREEK SMALL LETTER", "
    ALPHA ALPHA_WITH_TONOS ARCHAIC_KOPPA ARCHAIC_SAMPI BETA CHI DELTA DIGAMMA EPSILON
    EPSILON_WITH_TONOS ETA ETA_WITH_TONOS FINAL_SIGMA GAMMA HETA IOTA IOTA_WITH_DIALYTIKA
    IOTA_WITH_DIALYTIKA_AND_TONOS IOTA_WITH_TONOS KAPPA KOPPA LAMDA MU NU OMEGA OMEGA_WITH_TONOS
    OMICRON OMICRON_WITH_TONOS PAMPHYLIAN_DIGAMMA PHI PI PSI RHO SAMPI SAN SHO SIGMA STIGMA TAU
    THETA UPSILON UPSILON_WITH_DIALYTIKA UPSILON_WITH_DIALYTIKA_AND_TONOS UPSILON_WITH_TONOS XI
    ZETA"),
  ("GRINNING", "
    CAT_FACE_WITH_SMILING_EYES FACE FACE_WITH_ONE_LARGE_AND_ONE_SMALL_EYE FACE_WITH_SMILING_EYES
    FACE_WITH_STAR_EYES"),
  ("HEART", "DECORATION WITH_ARROW WITH_RIBBON WITH_TIP_ON_THE_LEFT"),
  ("HEAVY", "
    ASTERISK BALLOT_X BLACK-FEATHERED_NORTH_EAST_ARROW BLACK-FEATHERED_RIGHTWARDS_ARROW
    BLACK-FEATHERED_SOUTH_EAST_ARROW BLACK_CURVED_DOWNWARDS_AND_RIGHTWARDS_ARROW
    BLACK_CURVED_UPWARDS_AND_RIGHTWARDS_ARROW BLACK_HEART CHECK_MARK CHEVRON_SNOWFLAKE
    CIRCLE_WITH_STROKE_AND_TWO_DOTS_ABOVE CONCAVE-POINTED_BLACK_RIGHTWARDS_ARROW
    DASHED_TRIANGLE-HEADED_RIGHTWARDS_ARROW DIVISION_SIGN DOLLAR_SIGN
    DOUBLE_COMMA_QUOTATION_MARK_ORNAMENT DOUBLE_TURNED_COMMA_QUOTATION_MARK_ORNAMENT
    EIGHT_POINTED_RECTILINEAR_BLACK_STAR EIGHT_TEARDROP-SPOKED_PROPELLER_ASTERISK
    EXCLAMATION_MARK_ORNAMENT EXCLAMATION_MARK_SYMBOL FOUR_BALLOON-SPOKED_ASTERISK GREEK_CROSS
    HEART_EXCLAMATION_MARK_ORNAMENT LATIN_CROSS LEFT-POINTING_ANGLE_BRACKET_ORNAMENT
    LEFT-POINTING_ANGLE_QUOTATION_MARK_ORNAMENT LOWER_RIGHT-SHADOWED_WHITE_RIGHTWARDS_ARROW
    LOW_DOUBLE_COMMA_QUOTATION_MARK_ORNAMENT LOW_SINGLE_COMMA_QUOTATION_MARK_ORNAMENT MINUS_SIGN
    MULTIPLICATION_X NORTH_EAST_ARROW OPEN_CENTRE_CROSS OUTLINED_BLACK_STAR PLUS_SIGN
    RIGHT-POINTING_ANGLE_BRACKET_ORNAMENT RIGHT-POINTING_ANGLE_QUOTATION_MARK_ORNAMENT
    RIGHTWARDS_ARROW ROUND-TIPPED_RIGHTWARDS_ARROW SINGLE_COMMA_QUOTATION_MARK_ORNAMENT
    SINGLE_TURNED_COMMA_QUOTATION_MARK_ORNAMENT SOUTH_EAST_ARROW SPARKLE
    TEARDROP-SHANKED_RIGHTWARDS_ARROW TEARDROP-SPOKED_ASTERISK TEARDROP-SPOKED_PINWHEEL_ASTERISK
    TRIANGLE-HEADED_RIGHTWARDS_ARROW UPPER_RIGHT-SHADOWED_WHITE_RIGHTWARDS_ARROW VERTICAL_BAR
    WEDGE-TAILED_RIGHTWARDS_ARROW WHITE_DOWN-POINTING_TRIANGLE WIDE-HEADED_RIGHTWARDS_ARROW"),
  ("HORIZONTAL", "BAR ELLIPSIS MALE_WITH_STROKE_SIGN TABULATION TRAFFIC_LIGHT"),
  ("HOT", "BEVERAGE DOG PEPPER SPRINGS"),
  ("INFORMATION SEPARATOR", "FOUR ONE THREE TWO"),
  ("INPUT SYMBOL FOR", "LATIN_CAPITAL_LETTERS LATIN_LETTERS LATIN_SMALL_LETTERS NUMBERS SYMBOLS"),
  ("INVERTED", "EXCLAMATION_MARK LAZY_S OHM_SIGN PENTAGRAM QUESTION_MARK UNDERTIE"),
  ("JAPANESE", "BANK_SYMBOL CASTLE DOLLS GOBLIN OGRE POST_OFFICE SYMBOL_FOR_BEGINNER"),
  ("KISSING", "CAT_FACE_WITH_CLOSED_EYES FACE FACE_WITH_CLOSED_EYES FACE_WITH_SMILING_EYES"),
  ("LARGE", "BLUE_CIRCLE BLUE_DIAMOND CIRCLE ORANGE_DIAMOND RED_CIRCLE"),
  ("LATIN CAPITAL LETTER", "
    A AE B C D D_WITH_CARON D_WITH_STROKE E ENG ETH F G GHA H H_WITH_CIRCUMFLEX H_WITH_STROKE I J
    J_WITH_CIRCUMFLEX K K_WITH_CEDILLA L M N O P Q R R_WITH_ACUTE R_WITH_CARON R_WITH_CEDILLA S T
    THORN T_WITH_CARON T_WITH_CEDILLA T_WITH_STROKE U V W W_WITH_CIRCUMFLEX X Y Y_WITH_ACUTE
    Y_WITH_CIRCUMFLEX Y_WITH_DIAERESIS Z Z_WITH_ACUTE Z_WITH_CARON Z_WITH_DOT_ABOVE"),
  ("LATIN CAPITAL LETTER A WITH", "
    ACUTE BREVE CIRCUMFLEX DIAERESIS GRAVE MACRON OGONEK RING_ABOVE TILDE"),
  ("LATIN CAPITAL LETTER C WITH", "ACUTE CARON CEDILLA CIRCUMFLEX DOT_ABOVE"),
  ("LATIN CAPITAL LETTER E WITH", "
    ACUTE BREVE CARON CIRCUMFLEX DIAERESIS DOT_ABOVE GRAVE MACRON OGONEK"),
  ("LATIN CAPITAL LETTER G WITH", "BREVE CEDILLA CIRCUMFLEX DOT_ABOVE"),
  ("LATIN CAPITAL LETTER I WITH", "
    ACUTE BREVE CIRCUMFLEX DIAERESIS DOT_ABOVE GRAVE MACRON OGONEK TILDE"),
  ("LATIN CAPITAL LETTER L WITH", "ACUTE CARON CEDILLA MIDDLE_DOT STROKE"),
  ("LATIN CAPITAL LETTER N WITH", "ACUTE CARON CEDILLA TILDE"),
  ("LATIN CAPITAL LETTER O WITH", "
    ACUTE BREVE CIRCUMFLEX DIAERESIS DOUBLE_ACUTE GRAVE MACRON STROKE TILDE"),
  ("LATIN CAPITAL LETTER S WITH", "ACUTE CARON CEDILLA CIRCUMFLEX"),
  ("LATIN CAPITAL LETTER U WITH", "
    ACUTE BREVE CIRCUMFLEX DIAERESIS DOUBLE_ACUTE GRAVE MACRON OGONEK RING_ABOVE TILDE"),
  ("LATIN SMALL LETTER", "
    A AE B C D DOTLESS_I D_WITH_CARON D_WITH_STROKE E ENG ETH F G GHA H H_WITH_CIRCUMFLEX
    H_WITH_STROKE I J J_WITH_CIRCUMFLEX K KRA K_WITH_CEDILLA L LONG_S M N N_PRECEDED_BY_APOSTROPHE
    O P Q R R_WITH_ACUTE R_WITH_CARON R_WITH_CEDILLA S SHARP_S T THORN T_WITH_CARON T_WITH_CEDILLA
    T_WITH_STROKE U V W W_WITH_CIRCUMFLEX X Y Y_WITH_ACUTE Y_WITH_CIRCUMFLEX Y_WITH_DIAERESIS Z
    Z_WITH_ACUTE Z_WITH_CARON Z_WITH_DOT_ABOVE"),
  ("LATIN SMALL LETTER A WITH", "
    ACUTE BREVE CIRCUMFLEX DIAERESIS GRAVE MACRON OGONEK RING_ABOVE TILDE"),
  ("LATIN SMALL LETTER C WITH", "ACUTE CARON CEDILLA CIRCUMFLEX DOT_ABOVE"),
  ("LATIN SMALL LETTER E WITH", "
    ACUTE BREVE CARON CIRCUMFLEX DIAERESIS DOT_ABOVE GRAVE MACRON OGONEK"),
  ("LATIN SMALL LETTER G WITH", "BREVE CEDILLA CIRCUMFLEX DOT_ABOVE"),
  ("LATIN SMALL LETTER I WITH", "ACUTE BREVE CIRCUMFLEX DIAERESIS GRAVE MACRON OGONEK TILDE"),
  ("LATIN SMALL LETTER L WITH", "ACUTE CARON CEDILLA MIDDLE_DOT STROKE"),
  ("LATIN SMALL LETTER N WITH", "ACUTE CARON CEDILLA TILDE"),
  ("LATIN SMALL LETTER O WITH", "
    ACUTE BREVE CIRCUMFLEX DIAERESIS DOUBLE_ACUTE GRAVE MACRON STROKE TILDE"),
  ("LATIN SMALL LETTER S WITH", "ACUTE CARON CEDILLA CIRCUMFLEX"),
  ("LATIN SMALL LETTER U WITH", "
    ACUTE BREVE CIRCUMFLEX DIAERESIS DOUBLE_ACUTE GRAVE MACRON OGONEK RING_ABOVE TILDE"),
  ("LEFT", "
    ANGER_BUBBLE CLOSED_ENTRY CURLY_BRACKET DOUBLE_QUOTATION_MARK FIVE_EIGHTHS_BLOCK
    HALF_BLACK_CIRCLE HALF_BLOCK HAND_TELEPHONE_RECEIVER LUGGAGE NORMAL_FACTOR_SEMIDIRECT_PRODUCT
    ONE_EIGHTH_BLOCK ONE_QUARTER_BLOCK PARENTHESIS SEMIDIRECT_PRODUCT SEVEN_EIGHTHS_BLOCK
    SINGLE_QUOTATION_MARK SPEECH_BUBBLE SQUARE_BRACKET SQUARE_BRACKET_WITH_QUILL TACK
    THOUGHT_BUBBLE THREE_EIGHTHS_BLOCK THREE_QUARTERS_BLOCK WRITING_HAND"),
  ("LEFT RIGHT", "
    ARROW ARROW_WITH_DOUBLE_VERTICAL_STROKE ARROW_WITH_STROKE ARROW_WITH_VERTICAL_STROKE
    DOUBLE_ARROW DOUBLE_ARROW_WITH_STROKE OPEN-HEADED_ARROW WAVE_ARROW"),
  ("LEFT-TO-RIGHT", "EMBEDDING ISOLATE MARK OVERRIDE"),
  ("LEFTWARDS", "
    ARROW DASHED_ARROW DOUBLE_ARROW DOUBLE_ARROW_WITH_STROKE HARPOON_OVER_RIGHTWARDS_HARPOON
    HARPOON_WITH_BARB_DOWNWARDS HARPOON_WITH_BARB_UPWARDS OPEN-HEADED_ARROW PAIRED_ARROWS
    SQUIGGLE_ARROW TRIPLE_ARROW TWO_HEADED_ARROW WAVE_ARROW WHITE_ARROW"),
  ("LEFTWARDS ARROW", "FROM_BAR OVER_RIGHTWARDS_ARROW TO_BAR TO_BAR_OVER_RIGHTWARDS_ARROW_TO_BAR"),
  ("LEFTWARDS ARROW WITH", "DOUBLE_VERTICAL_STROKE HOOK LOOP STROKE TAIL VERTICAL_STROKE"),
  ("LESS-THAN", "
    BUT_NOT_EQUAL_TO BUT_NOT_EQUIVALENT_TO EQUAL_TO_OR_GREATER-THAN OR_EQUAL_TO OR_EQUIVALENT_TO
    OR_GREATER-THAN OVER_EQUAL_TO SIGN WITH_DOT"),
  ("LIGHT", "
    CHECK_MARK LEFT_TORTOISE_SHELL_BRACKET_ORNAMENT RAIL RIGHT_TORTOISE_SHELL_BRACKET_ORNAMENT
    SHADE VERTICAL_BAR"),
  ("LOWER", "
    BLADE_SCISSORS FIVE_EIGHTHS_BLOCK HALF_BLOCK HALF_CIRCLE HALF_INVERSE_WHITE_CIRCLE
    ONE_EIGHTH_BLOCK ONE_QUARTER_BLOCK SEVEN_EIGHTHS_BLOCK THREE_EIGHTHS_BLOCK
    THREE_QUARTERS_BLOCK"),
  ("LOWER LEFT", "
    BALLPOINT_PEN CRAYON FOUNTAIN_PEN PAINTBRUSH PENCIL QUADRANT_CIRCULAR_ARC TRIANGLE"),
  ("LOWER RIGHT", "
    DROP-SHADOWED_WHITE_SQUARE PENCIL QUADRANT_CIRCULAR_ARC SHADOWED_WHITE_CIRCLE
    SHADOWED_WHITE_SQUARE TRIANGLE"),
  ("MALE", "AND_FEMALE_SIGN SIGN WITH_STROKE_AND_MALE_AND_FEMALE_SIGN WITH_STROKE_SIGN"),
  ("MAN", "
    AND_WOMAN_HOLDING_HANDS DANCING IN_BUSINESS_SUIT_LEVITATING IN_TUXEDO WITH_GUA_PI_MAO
    WITH_TURBAN"),
  ("MEDIUM", "
    BLACK_CIRCLE FLATTENED_LEFT_PARENTHESIS_ORNAMENT FLATTENED_RIGHT_PARENTHESIS_ORNAMENT
    LEFT-POINTING_ANGLE_BRACKET_ORNAMENT LEFT_CURLY_BRACKET_ORNAMENT LEFT_PARENTHESIS_ORNAMENT
    MATHEMATICAL_SPACE RIGHT-POINTING_ANGLE_BRACKET_ORNAMENT RIGHT_CURLY_BRACKET_ORNAMENT
    RIGHT_PARENTHESIS_ORNAMENT SHADE SMALL_WHITE_CIRCLE VERTICAL_BAR WHITE_CIRCLE"),
  ("MUSICAL", "KEYBOARD KEYBOARD_WITH_JACKS NOTE SCORE"),
  ("N-ARY", "COPRODUCT INTERSECTION LOGICAL_AND LOGICAL_OR PRODUCT SUMMATION UNION"),
  ("NEITHER", "
    APPROXIMATELY_NOR_ACTUALLY_EQUAL_TO A_SUBSET_OF_NOR_EQUAL_TO A_SUPERSET_OF_NOR_EQUAL_TO
    GREATER-THAN_NOR_EQUAL_TO GREATER-THAN_NOR_EQUIVALENT_TO GREATER-THAN_NOR_LESS-THAN
    LESS-THAN_NOR_EQUAL_TO LESS-THAN_NOR_EQUIVALENT_TO LESS-THAN_NOR_GREATER-THAN"),
  ("NEW", "LINE MOON_SYMBOL MOON_WITH_FACE SHEQEL_SIGN"),
  ("NO", "
    BICYCLES BREAK_HERE ENTRY ENTRY_SIGN MOBILE_PHONES ONE_UNDER_EIGHTEEN_SYMBOL PEDESTRIANS
    PIRACY SMOKING_SYMBOL"),
  ("NORTH WEST", "ARROW ARROW_TO_CORNER ARROW_TO_LONG_BAR DOUBLE_ARROW"),
  ("NOT", "
    ALMOST_EQUAL_TO AN_ELEMENT_OF ASYMPTOTICALLY_EQUAL_TO A_SUBSET_OF A_SUPERSET_OF EQUAL_TO
    EQUIVALENT_TO GREATER-THAN IDENTICAL_TO LESS-THAN NORMAL_SUBGROUP_OF
    NORMAL_SUBGROUP_OF_OR_EQUAL_TO PARALLEL_TO SIGN SQUARE_IMAGE_OF_OR_EQUAL_TO
    SQUARE_ORIGINAL_OF_OR_EQUAL_TO TILDE TRUE"),
  ("NOTCHED", "
    LEFT_SEMICIRCLE_WITH_THREE_DOTS LOWER_RIGHT-SHADOWED_WHITE_RIGHTWARDS_ARROW
    RIGHT_SEMICIRCLE_WITH_THREE_DOTS UPPER_RIGHT-SHADOWED_WHITE_RIGHTWARDS_ARROW"),
  ("ONCOMING", "AUTOMOBILE BUS FIRE_ENGINE POLICE_CAR TAXI"),
  ("OPEN", "
    BOOK FILE_FOLDER FOLDER HANDS_SIGN LOCK MAILBOX_WITH_LOWERED_FLAG MAILBOX_WITH_RAISED_FLAG"),
  ("OPEN CENTRE", "ASTERISK BLACK_STAR CROSS TEARDROP-SPOKED_ASTERISK"),
  ("OUTLINED", "BLACK_STAR GREEK_CROSS LATIN_CROSS WHITE_STAR"),
  ("PERSON", "BOWING_DEEPLY DOING_CARTWHEEL FROWNING RAISING_BOTH_HANDS_IN_CELEBRATION"),
  ("PERSON WITH", "BALL BLOND_HAIR FOLDED_HANDS POUTING_FACE"),
  ("PRECEDES", "BUT_NOT_EQUIVALENT_TO OR_EQUAL_TO OR_EQUIVALENT_TO UNDER_RELATION"),
  ("QUADRANT UPPER", "LEFT RIGHT RIGHT_AND_LOWER_LEFT RIGHT_AND_LOWER_LEFT_AND_LOWER_RIGHT"),
  ("QUADRANT UPPER LEFT AND", "
    LOWER_LEFT_AND_LOWER_RIGHT LOWER_RIGHT UPPER_RIGHT_AND_LOWER_LEFT UPPER_RIGHT_AND_LOWER_RIGHT"),
  ("RAISED", "
    BACK_OF_HAND FIST HAND HAND_WITH_FINGERS_SPLAYED
    HAND_WITH_PART_BETWEEN_MIDDLE_AND_RING_FINGERS"),
  ("RECYCLING SYMBOL FOR", "
    GENERIC_MATERIALS TYPE-1_PLASTICS TYPE-2_PLASTICS TYPE-3_PLASTICS TYPE-4_PLASTICS
    TYPE-5_PLASTICS TYPE-6_PLASTICS TYPE-7_PLASTICS"),
  ("REVERSED", "
    DOUBLE_PRIME HAND_WITH_MIDDLE_FINGER_EXTENDED PILCROW_SIGN PRIME
    RAISED_HAND_WITH_FINGERS_SPLAYED ROTATED_FLORAL_HEART_BULLET SANS-SERIF_CAPITAL_L SEMICOLON
    THUMBS_DOWN_SIGN THUMBS_UP_SIGN TILDE TILDE_EQUALS TRIPLE_PRIME VICTORY_HAND"),
  ("RIGHT", "
    ANGER_BUBBLE ANGLE ANGLE_WITH_ARC ARROW_WITH_SMALL_CIRCLE CURLY_BRACKET DOUBLE_QUOTATION_MARK
    HALF_BLACK_CIRCLE HALF_BLOCK HAND_TELEPHONE_RECEIVER NORMAL_FACTOR_SEMIDIRECT_PRODUCT
    ONE_EIGHTH_BLOCK PARENTHESIS SEMIDIRECT_PRODUCT SINGLE_QUOTATION_MARK SPEAKER
    SPEAKER_WITH_ONE_SOUND_WAVE SPEAKER_WITH_THREE_SOUND_WAVES SPEECH_BUBBLE SQUARE_BRACKET
    SQUARE_BRACKET_WITH_QUILL TACK THOUGHT_BUBBLE TRIANGLE"),
  ("RIGHT-TO-LEFT", "EMBEDDING ISOLATE MARK OVERRIDE"),
  ("RIGHTWARDS", "
    ARROW DASHED_ARROW DOUBLE_ARROW DOUBLE_ARROW_WITH_STROKE HARPOON_OVER_LEFTWARDS_HARPOON
    HARPOON_WITH_BARB_DOWNWARDS HARPOON_WITH_BARB_UPWARDS OPEN-HEADED_ARROW PAIRED_ARROWS
    SQUIGGLE_ARROW TRIPLE_ARROW TWO_HEADED_ARROW WAVE_ARROW WHITE_ARROW WHITE_ARROW_FROM_WALL"),
  ("RIGHTWARDS ARROW", "FROM_BAR OVER_LEFTWARDS_ARROW TO_BAR"),
  ("RIGHTWARDS ARROW WITH", "
    CORNER_DOWNWARDS DOUBLE_VERTICAL_STROKE HOOK LOOP STROKE TAIL VERTICAL_STROKE"),
  ("RING", "BUOY EQUAL_TO IN_EQUAL_TO OPERATOR"),
  ("SCRIPT CAPITAL", "B E F H I L M P R"),
  ("SCRIPT SMALL", "E G L O"),
  ("SIDEWAYS BLACK", "
    DOWN_POINTING_INDEX LEFT_POINTING_INDEX RIGHT_POINTING_INDEX UP_POINTING_INDEX"),
  ("SIDEWAYS WHITE", "
    DOWN_POINTING_INDEX LEFT_POINTING_INDEX RIGHT_POINTING_INDEX UP_POINTING_INDEX"),
  ("SINGLE", "
    HIGH-REVERSED-9_QUOTATION_MARK LEFT-POINTING_ANGLE_QUOTATION_MARK LOW-9_QUOTATION_MARK
    RIGHT-POINTING_ANGLE_QUOTATION_MARK"),
  ("SMALL", "
    AIRPLANE BLUE_DIAMOND CONTAINS_AS_MEMBER CONTAINS_WITH_OVERBAR
    CONTAINS_WITH_VERTICAL_BAR_AT_END_OF_HORIZONTAL_STROKE ELEMENT_OF ELEMENT_OF_WITH_OVERBAR
    ELEMENT_OF_WITH_VERTICAL_BAR_AT_END_OF_HORIZONTAL_STROKE ORANGE_DIAMOND"),
  ("SMILING FACE WITH", "
    HALO HEART-SHAPED_EYES HORNS SMILING_EYES SMILING_EYES_AND_HAND_COVERING_MOUTH SUNGLASSES"),
  ("SMILING FACE WITH OPEN", "
    MOUTH MOUTH_AND_COLD_SWEAT MOUTH_AND_SMILING_EYES MOUTH_AND_TIGHTLY-CLOSED_EYES"),
  ("SOUTH", "EAST_ARROW EAST_ARROW_TO_CORNER EAST_DOUBLE_ARROW WEST_ARROW WEST_DOUBLE_ARROW"),
  ("SQUARE", "
    CAP CUP FOUR_CORNERS IMAGE_OF IMAGE_OF_OR_EQUAL_TO IMAGE_OF_OR_NOT_EQUAL_TO ORIGINAL_OF
    ORIGINAL_OF_OR_EQUAL_TO ORIGINAL_OF_OR_NOT_EQUAL_TO ROOT"),
  ("SQUARE WITH", "
    DIAGONAL_CROSSHATCH_FILL HORIZONTAL_FILL LEFT_HALF_BLACK LOWER_RIGHT_DIAGONAL_HALF_BLACK
    ORTHOGONAL_CROSSHATCH_FILL RIGHT_HALF_BLACK UPPER_LEFT_DIAGONAL_HALF_BLACK
    UPPER_LEFT_TO_LOWER_RIGHT_FILL UPPER_RIGHT_TO_LOWER_LEFT_FILL VERTICAL_FILL"),
  ("SQUARED", "DOT_OPERATOR KEY MINUS PLUS SALTIRE TIMES"),
  ("STAR", "AND_CRESCENT EQUALS OF_DAVID OPERATOR"),
  ("SUCCEEDS", "BUT_NOT_EQUIVALENT_TO OR_EQUAL_TO OR_EQUIVALENT_TO UNDER_RELATION"),
  ("TELEPHONE", "LOCATION_SIGN ON_TOP_OF_MODEM RECEIVER RECEIVER_WITH_PAGE SIGN"),
  ("THREE", "
    BUTTON_MOUSE DOT_PUNCTUATION LINES_CONVERGING_LEFT LINES_CONVERGING_RIGHT NETWORKED_COMPUTERS
    RIGHTWARDS_ARROWS SPEECH_BUBBLES"),
  ("THREE RAYS", "ABOVE BELOW LEFT RIGHT"),
  ("TRIGRAM FOR", "EARTH FIRE HEAVEN LAKE MOUNTAIN THUNDER WATER WIND"),
  ("TRIPLE", "INTEGRAL PRIME TILDE VERTICAL_BAR_RIGHT_TURNSTILE"),
  ("TURNED", "
    AMPERSAND BLACK_SHOGI_PIECE CAPITAL_F GREEK_SMALL_LETTER_IOTA OK_HAND_SIGN
    SANS-SERIF_CAPITAL_G SANS-SERIF_CAPITAL_L SANS-SERIF_CAPITAL_Y SMALL_F WHITE_SHOGI_PIECE"),
  ("TWO", "
    ASTERISKS_ALIGNED_VERTICALLY BUTTON_MOUSE DOT_LEADER DOT_PUNCTUATION HEARTS MEN_HOLDING_HANDS
    SPEECH_BUBBLES WOMEN_HOLDING_HANDS"),
  ("UP DOWN", "ARROW ARROW_WITH_BASE DOUBLE_ARROW WHITE_ARROW"),
  ("UP-POINTING", "
    AIRPLANE MILITARY_AIRPLANE RED_TRIANGLE SMALL_AIRPLANE SMALL_RED_TRIANGLE
    TRIANGLE_WITH_LEFT_HALF_BLACK TRIANGLE_WITH_RIGHT_HALF_BLACK"),
  ("UPPER", "
    BLADE_SCISSORS HALF_BLOCK HALF_CIRCLE HALF_INVERSE_WHITE_CIRCLE LEFT_QUADRANT_CIRCULAR_ARC
    LEFT_TRIANGLE ONE_EIGHTH_BLOCK"),
  ("UPPER RIGHT", "
    DROP-SHADOWED_WHITE_SQUARE PENCIL QUADRANT_CIRCULAR_ARC SHADOWED_WHITE_CIRCLE
    SHADOWED_WHITE_SQUARE TRIANGLE"),
  ("UPWARDS", "
    ARROW DASHED_ARROW DOUBLE_ARROW HARPOON_WITH_BARB_LEFTWARDS HARPOON_WITH_BARB_RIGHTWARDS
    PAIRED_ARROWS TWO_HEADED_ARROW"),
  ("UPWARDS ARROW", "
    FROM_BAR LEFTWARDS_OF_DOWNWARDS_ARROW WITH_DOUBLE_STROKE WITH_TIP_LEFTWARDS
    WITH_TIP_RIGHTWARDS"),
  ("UPWARDS WHITE", "ARROW DOUBLE_ARROW DOUBLE_ARROW_ON_PEDESTAL"),
  ("UPWARDS WHITE ARROW", "
    FROM_BAR ON_PEDESTAL ON_PEDESTAL_WITH_HORIZONTAL_BAR ON_PEDESTAL_WITH_VERTICAL_BAR"),
  ("VERTICAL", "ELLIPSIS FOUR_DOTS LINE MALE_WITH_STROKE_SIGN TABULATION TRAFFIC_LIGHT"),
  ("WHITE", "
    BULLET CIRCLE CLUB_SUIT DIAMOND DIAMOND_CONTAINING_BLACK_SMALL_DIAMOND DIAMOND_IN_SQUARE
    DIAMOND_SUIT DOWN-POINTING_SMALL_TRIANGLE DOWN-POINTING_TRIANGLE DOWN_POINTING_BACKHAND_INDEX
    DOWN_POINTING_INDEX DOWN_POINTING_LEFT_HAND_INDEX DRAUGHTS_KING DRAUGHTS_MAN
    EXCLAMATION_MARK_ORNAMENT FLAG FLAG_WITH_HORIZONTAL_MIDDLE_BLACK_STRIPE FLORETTE FLOWER
    FOUR_POINTED_STAR FROWNING_FACE HARD_SHELL_FLOPPY_DISK HEART_SUIT HEAVY_CHECK_MARK LATIN_CROSS
    LEFT-POINTING_POINTER LEFT-POINTING_SMALL_TRIANGLE LEFT-POINTING_TRIANGLE LEFT_LANE_MERGE
    LEFT_POINTING_BACKHAND_INDEX LEFT_POINTING_INDEX MEDIUM_SMALL_SQUARE MEDIUM_SQUARE NIB
    PARALLELOGRAM PENNANT QUESTION_MARK_ORNAMENT RECTANGLE RIGHT-POINTING_POINTER
    RIGHT-POINTING_SMALL_TRIANGLE RIGHT-POINTING_TRIANGLE RIGHT_POINTING_BACKHAND_INDEX
    RIGHT_POINTING_INDEX SCISSORS SHOGI_PIECE SMALL_SQUARE SMILING_FACE SPADE_SUIT SQUARE STAR SUN
    TELEPHONE TOUCHTONE_TELEPHONE TWO-WAY_LEFT_WAY_TRAFFIC UP-POINTING_SMALL_TRIANGLE
    UP-POINTING_TRIANGLE UP-POINTING_TRIANGLE_WITH_DOT UP_POINTING_BACKHAND_INDEX
    UP_POINTING_INDEX VERTICAL_RECTANGLE"),
  ("WHITE CHESS", "BISHOP KING KNIGHT PAWN QUEEN ROOK"),
  ("WHITE CIRCLE WITH", "
    DOT_RIGHT LOWER_LEFT_QUADRANT LOWER_RIGHT_QUADRANT TWO_DOTS UPPER_LEFT_QUADRANT
    UPPER_RIGHT_QUADRANT"),
  ("WHITE SQUARE WITH", "
    LOWER_LEFT_QUADRANT LOWER_RIGHT_QUADRANT ROUNDED_CORNERS UPPER_LEFT_QUADRANT
    UPPER_RIGHT_QUADRANT VERTICAL_BISECTING_LINE"),
  ("WHITE SUN", "BEHIND_CLOUD BEHIND_CLOUD_WITH_RAIN WITH_RAYS WITH_SMALL_CLOUD"),
  ("WOMANS", "BOOTS CLOTHES HAT SANDAL"),
  ("ZERO WIDTH", "JOINER NO-BREAK_SPACE NON-JOINER SPACE")]

def isListed (name : Text) (table : String) : Bool :=
  !name.isEmpty && ((Text.ofString table).pieces fun c => c.isIn " \n").any (· == name)

def isTabled (name : Text) : Bool :=
  isListed name alone || families.any fun (start, endings) =>
    let shared := Text.substitute ' ' "_" start ++ "_"
    name.startsWith shared && isListed (name.drop shared.length) endings

/-- The numbers of the ideographs that are named by their number. -/
def ideographRanges : List (Nat × Nat) := [
  (0x3400, 0x4DBF), (0x4E00, 0x9FFF), (0x20000, 0x2A6DF), (0x2A700, 0x2B738), (0x2B740, 0x2B81D),
  (0x2B820, 0x2CEA1), (0x2CEB0, 0x2EBE0), (0x30000, 0x3134A)]

/-- Whether a text is the number of an ideograph, in four or five digits in upper case. -/
def isIdeograph (digits : Text) : Bool :=
  let number := digits.foldl (fun n c => n * 16 + c.hexValue?.getD 0) 0
  (digits.length == 4 || digits.length == 5) && digits.all (·.isIn "0123456789ABCDEF")
    && ideographRanges.any fun range => range.1 ≤ number && number ≤ range.2

/-- The three parts of the name of a syllable; the first and the last may be nothing. -/
def syllableParts : List (List String) := [
  ["GG", "G", "N", "DD", "D", "R", "M", "BB", "B", "SS", "S", "JJ", "J", "C", "K", "T", "P", "H",
    ""],
  ["YAE", "YEO", "WAE", "AE", "YA", "EO", "YE", "WA", "OE", "YO", "WEO", "WE", "WI", "YU", "EU",
    "YI", "A", "E", "O", "U", "I"],
  ["GG", "GS", "G", "NJ", "NH", "NG", "N", "D", "LG", "LM", "LB", "LS", "LT", "LP", "LH", "L", "M",
    "BS", "B", "SS", "S", "J", "C", "K", "T", "P", "H", ""]]

def isMadeOf : List (List String) → Text → Bool
  | [], t => t.isEmpty
  | part :: more, t => part.any fun piece =>
      let piece : Text := piece
      t.startsWith piece && isMadeOf more (t.drop piece.length)

/-- Whether a text is the name of a character. The case of letters matters only where names follow
a rule. -/
def isKnown (name : Text) : Bool :=
  let syllable : Text := "HANGUL SYLLABLE "
  let ideograph : Text := "CJK UNIFIED IDEOGRAPH-"
  if name.startsWith syllable then isMadeOf syllableParts (name.drop syllable.length)
  else if name.startsWith ideograph then isIdeograph (name.drop ideograph.length)
  else !name.any (· == '_') && isTabled (Text.substitute ' ' "_" (Text.upperAscii name))

end ExposureLint.CharacterName
