import Manuscript.Text.Basic

/-!
# The catalogue of emoji

One line for each emoji: the sequence of characters, the name, and the shortcodes. A plus sign
before the sequence says that its first character can take a skin tone; sequences in which more than
one character takes one stand on lines of their own.
-/

namespace Manuscript.Emoji

/-- The lines of the catalogue. -/
def catalogueLines : List String :=
  ["©️;copyright;copyright",
    "®️;registered;registered",
    "‼️;double exclamation mark;bangbang",
    "⁉️;exclamation question mark;interrobang",
    "™️;trade mark;tm",
    "ℹ️;information;information_source",
    "↔️;left-right arrow;left_right_arrow",
    "↕️;up-down arrow;arrow_up_down",
    "↖️;up-left arrow;arrow_upper_left",
    "↗️;up-right arrow;arrow_upper_right",
    "↘️;down-right arrow;arrow_lower_right",
    "↙️;down-left arrow;arrow_lower_left",
    "↩️;right arrow curving left;leftwards_arrow_with_hook",
    "↪️;left arrow curving right;arrow_right_hook",
    "⌚;watch;watch",
    "⌛;hourglass done;hourglass",
    "⌨️;keyboard;keyboard",
    "⏏️;eject button;eject_button",
    "⏩;fast-forward button;fast_forward",
    "⏪;fast reverse button;rewind",
    "⏫;fast up button;arrow_double_up",
    "⏬;fast down button;arrow_double_down",
    "⏭️;next track button;next_track_button",
    "⏮️;last track button;previous_track_button",
    "⏯️;play or pause button;play_or_pause_button",
    "⏰;alarm clock;alarm_clock",
    "⏱️;stopwatch;stopwatch",
    "⏲️;timer clock;timer_clock",
    "⏳;hourglass not done;hourglass_flowing_sand",
    "⏸️;pause button;pause_button",
    "⏹️;stop button;stop_button",
    "⏺️;record button;record_button",
    "Ⓜ️;circled M;m",
    "▪️;black small square;black_small_square",
    "▫️;white small square;white_small_square",
    "▶️;play button;arrow_forward",
    "◀️;reverse button;arrow_backward",
    "◻️;white medium square;white_medium_square",
    "◼️;black medium square;black_medium_square",
    "◽;white medium-small square;white_medium_small_square",
    "◾;black medium-small square;black_medium_small_square",
    "☀️;sun;sunny",
    "☁️;cloud;cloud",
    "☂️;umbrella;open_umbrella",
    "☃️;snowman;snowman_with_snow",
    "☄️;comet;comet",
    "☎️;telephone;phone,telephone",
    "☑️;check box with check;ballot_box_with_check",
    "☔;umbrella with rain drops;umbrella",
    "☕;hot beverage;coffee",
    "☘️;shamrock;shamrock",
    "+☝️;index pointing up;point_up",
    "☠️;skull and crossbones;skull_and_crossbones",
    "☢️;radioactive;radioactive",
    "☣️;biohazard;biohazard",
    "☦️;orthodox cross;orthodox_cross",
    "☪️;star and crescent;star_and_crescent",
    "☮️;peace symbol;peace_symbol",
    "☯️;yin yang;yin_yang",
    "☸️;wheel of dharma;wheel_of_dharma",
    "☹️;frowning face;frowning_face",
    "☺️;smiling face;relaxed",
    "♀️;female sign;female_sign",
    "♂️;male sign;male_sign",
    "♈;Aries;aries",
    "♉;Taurus;taurus",
    "♊;Gemini;gemini",
    "♋;Cancer;cancer",
    "♌;Leo;leo",
    "♍;Virgo;virgo",
    "♎;Libra;libra",
    "♏;Scorpio;scorpius",
    "♐;Sagittarius;sagittarius",
    "♑;Capricorn;capricorn",
    "♒;Aquarius;aquarius",
    "♓;Pisces;pisces",
    "♟️;chess pawn;chess_pawn",
    "♠️;spade suit;spades",
    "♣️;club suit;clubs",
    "♥️;heart suit;hearts",
    "♦️;diamond suit;diamonds",
    "♨️;hot springs;hotsprings",
    "♻️;recycling symbol;recycle",
    "♾️;infinity;infinity",
    "♿;wheelchair symbol;wheelchair",
    "⚒️;hammer and pick;hammer_and_pick",
    "⚓;anchor;anchor",
    "⚔️;crossed swords;crossed_swords",
    "⚕️;medical symbol;medical_symbol",
    "⚖️;balance scale;balance_scale",
    "⚗️;alembic;alembic",
    "⚙️;gear;gear",
    "⚛️;atom symbol;atom_symbol",
    "⚜️;fleur-de-lis;fleur_de_lis",
    "⚠️;warning;warning",
    "⚡;high voltage;zap",
    "⚧️;transgender symbol;transgender_symbol",
    "⚪;white circle;white_circle",
    "⚫;black circle;black_circle",
    "⚰️;coffin;coffin",
    "⚱️;funeral urn;funeral_urn",
    "⚽;soccer ball;soccer",
    "⚾;baseball;baseball",
    "⛄;snowman without snow;snowman",
    "⛅;sun behind cloud;partly_sunny",
    "⛈️;cloud with lightning and rain;cloud_with_lightning_and_rain",
    "⛎;Ophiuchus;ophiuchus",
    "⛏️;pick;pick",
    "⛑️;rescue worker’s helmet;rescue_worker_helmet",
    "⛓️;chains;chains",
    "⛔;no entry;no_entry",
    "⛩️;shinto shrine;shinto_shrine",
    "⛪;church;church",
    "⛰️;mountain;mountain",
    "⛱️;umbrella on ground;parasol_on_ground",
    "⛲;fountain;fountain",
    "⛳;flag in hole;golf",
    "⛴️;ferry;ferry",
    "⛵;sailboat;boat,sailboat",
    "⛷️;skier;skier",
    "⛸️;ice skate;ice_skate",
    "+⛹️;person bouncing ball;bouncing_ball_person",
    "⛺;tent;tent",
    "⛽;fuel pump;fuelpump",
    "✂️;scissors;scissors",
    "✅;check mark button;white_check_mark",
    "✈️;airplane;airplane",
    "✉️;envelope;envelope",
    "+✊;raised fist;fist_raised,fist",
    "+✋;raised hand;hand,raised_hand",
    "+✌️;victory hand;v",
    "+✍️;writing hand;writing_hand",
    "✏️;pencil;pencil2",
    "✒️;black nib;black_nib",
    "✔️;check mark;heavy_check_mark",
    "✖️;multiply;heavy_multiplication_x",
    "✝️;latin cross;latin_cross",
    "✡️;star of David;star_of_david",
    "✨;sparkles;sparkles",
    "✳️;eight-spoked asterisk;eight_spoked_asterisk",
    "✴️;eight-pointed star;eight_pointed_black_star",
    "❄️;snowflake;snowflake",
    "❇️;sparkle;sparkle",
    "❌;cross mark;x",
    "❎;cross mark button;negative_squared_cross_mark",
    "❓;red question mark;question",
    "❔;white question mark;grey_question",
    "❕;white exclamation mark;grey_exclamation",
    "❗;red exclamation mark;exclamation,heavy_exclamation_mark",
    "❣️;heart exclamation;heavy_heart_exclamation",
    "❤️;red heart;heart",
    "➕;plus;heavy_plus_sign",
    "➖;minus;heavy_minus_sign",
    "➗;divide;heavy_division_sign",
    "➡️;right arrow;arrow_right",
    "➰;curly loop;curly_loop",
    "➿;double curly loop;loop",
    "⤴️;right arrow curving up;arrow_heading_up",
    "⤵️;right arrow curving down;arrow_heading_down",
    "⬅️;left arrow;arrow_left",
    "⬆️;up arrow;arrow_up",
    "⬇️;down arrow;arrow_down",
    "⬛;black large square;black_large_square",
    "⬜;white large square;white_large_square",
    "⭐;star;star",
    "⭕;hollow red circle;o",
    "〰️;wavy dash;wavy_dash",
    "〽️;part alternation mark;part_alternation_mark",
    "㊗️;Japanese “congratulations” button;congratulations",
    "㊙️;Japanese “secret” button;secret",
    "🀄;mahjong red dragon;mahjong",
    "🃏;joker;black_joker",
    "🅰️;A button (blood type);a",
    "🅱️;B button (blood type);b",
    "🅾️;O button (blood type);o2",
    "🅿️;P button;parking",
    "🆎;AB button (blood type);ab",
    "🆑;CL button;cl",
    "🆒;COOL button;cool",
    "🆓;FREE button;free",
    "🆔;ID button;id",
    "🆕;NEW button;new",
    "🆖;NG button;ng",
    "🆗;OK button;ok",
    "🆘;SOS button;sos",
    "🆙;UP! button;up",
    "🆚;VS button;vs",
    "🈁;Japanese “here” button;koko",
    "🈂️;Japanese “service charge” button;sa",
    "🈚;Japanese “free of charge” button;u7121",
    "🈯;Japanese “reserved” button;u6307",
    "🈲;Japanese “prohibited” button;u7981",
    "🈳;Japanese “vacancy” button;u7a7a",
    "🈴;Japanese “passing grade” button;u5408",
    "🈵;Japanese “no vacancy” button;u6e80",
    "🈶;Japanese “not free of charge” button;u6709",
    "🈷️;Japanese “monthly amount” button;u6708",
    "🈸;Japanese “application” button;u7533",
    "🈹;Japanese “discount” button;u5272",
    "🈺;Japanese “open for business” button;u55b6",
    "🉐;Japanese “bargain” button;ideograph_advantage",
    "🉑;Japanese “acceptable” button;accept",
    "🌀;cyclone;cyclone",
    "🌁;foggy;foggy",
    "🌂;closed umbrella;closed_umbrella",
    "🌃;night with stars;night_with_stars",
    "🌄;sunrise over mountains;sunrise_over_mountains",
    "🌅;sunrise;sunrise",
    "🌆;cityscape at dusk;city_sunset",
    "🌇;sunset;city_sunrise",
    "🌈;rainbow;rainbow",
    "🌉;bridge at night;bridge_at_night",
    "🌊;water wave;ocean",
    "🌋;volcano;volcano",
    "🌌;milky way;milky_way",
    "🌍;globe showing Europe-Africa;earth_africa",
    "🌎;globe showing Americas;earth_americas",
    "🌏;globe showing Asia-Australia;earth_asia",
    "🌐;globe with meridians;globe_with_meridians",
    "🌑;new moon;new_moon",
    "🌒;waxing crescent moon;waxing_crescent_moon",
    "🌓;first quarter moon;first_quarter_moon",
    "🌔;waxing gibbous moon;moon,waxing_gibbous_moon",
    "🌕;full moon;full_moon",
    "🌖;waning gibbous moon;waning_gibbous_moon",
    "🌗;last quarter moon;last_quarter_moon",
    "🌘;waning crescent moon;waning_crescent_moon",
    "🌙;crescent moon;crescent_moon",
    "🌚;new moon face;new_moon_with_face",
    "🌛;first quarter moon face;first_quarter_moon_with_face",
    "🌜;last quarter moon face;last_quarter_moon_with_face",
    "🌝;full moon face;full_moon_with_face",
    "🌞;sun with face;sun_with_face",
    "🌟;glowing star;star2",
    "🌠;shooting star;stars",
    "🌡️;thermometer;thermometer",
    "🌤️;sun behind small cloud;sun_behind_small_cloud",
    "🌥️;sun behind large cloud;sun_behind_large_cloud",
    "🌦️;sun behind rain cloud;sun_behind_rain_cloud",
    "🌧️;cloud with rain;cloud_with_rain",
    "🌨️;cloud with snow;cloud_with_snow",
    "🌩️;cloud with lightning;cloud_with_lightning",
    "🌪️;tornado;tornado",
    "🌫️;fog;fog",
    "🌬️;wind face;wind_face",
    "🌭;hot dog;hotdog",
    "🌮;taco;taco",
    "🌯;burrito;burrito",
    "🌰;chestnut;chestnut",
    "🌱;seedling;seedling",
    "🌲;evergreen tree;evergreen_tree",
    "🌳;deciduous tree;deciduous_tree",
    "🌴;palm tree;palm_tree",
    "🌵;cactus;cactus",
    "🌶️;hot pepper;hot_pepper",
    "🌷;tulip;tulip",
    "🌸;cherry blossom;cherry_blossom",
    "🌹;rose;rose",
    "🌺;hibiscus;hibiscus",
    "🌻;sunflower;sunflower",
    "🌼;blossom;blossom",
    "🌽;ear of corn;corn",
    "🌾;sheaf of rice;ear_of_rice",
    "🌿;herb;herb",
    "🍀;four leaf clover;four_leaf_clover",
    "🍁;maple leaf;maple_leaf",
    "🍂;fallen leaf;fallen_leaf",
    "🍃;leaf fluttering in wind;leaves",
    "🍄;mushroom;mushroom",
    "🍅;tomato;tomato",
    "🍆;eggplant;eggplant",
    "🍇;grapes;grapes",
    "🍈;melon;melon",
    "🍉;watermelon;watermelon",
    "🍊;tangerine;tangerine,orange,mandarin",
    "🍋;lemon;lemon",
    "🍌;banana;banana",
    "🍍;pineapple;pineapple",
    "🍎;red apple;apple",
    "🍏;green apple;green_apple",
    "🍐;pear;pear",
    "🍑;peach;peach",
    "🍒;cherries;cherries",
    "🍓;strawberry;strawberry",
    "🍔;hamburger;hamburger",
    "🍕;pizza;pizza",
    "🍖;meat on bone;meat_on_bone",
    "🍗;poultry leg;poultry_leg",
    "🍘;rice cracker;rice_cracker",
    "🍙;rice ball;rice_ball",
    "🍚;cooked rice;rice",
    "🍛;curry rice;curry",
    "🍜;steaming bowl;ramen",
    "🍝;spaghetti;spaghetti",
    "🍞;bread;bread",
    "🍟;french fries;fries",
    "🍠;roasted sweet potato;sweet_potato",
    "🍡;dango;dango",
    "🍢;oden;oden",
    "🍣;sushi;sushi",
    "🍤;fried shrimp;fried_shrimp",
    "🍥;fish cake with swirl;fish_cake",
    "🍦;soft ice cream;icecream",
    "🍧;shaved ice;shaved_ice",
    "🍨;ice cream;ice_cream",
    "🍩;doughnut;doughnut",
    "🍪;cookie;cookie",
    "🍫;chocolate bar;chocolate_bar",
    "🍬;candy;candy",
    "🍭;lollipop;lollipop",
    "🍮;custard;custard",
    "🍯;honey pot;honey_pot",
    "🍰;shortcake;cake",
    "🍱;bento box;bento",
    "🍲;pot of food;stew",
    "🍳;cooking;fried_egg",
    "🍴;fork and knife;fork_and_knife",
    "🍵;teacup without handle;tea",
    "🍶;sake;sake",
    "🍷;wine glass;wine_glass",
    "🍸;cocktail glass;cocktail",
    "🍹;tropical drink;tropical_drink",
    "🍺;beer mug;beer",
    "🍻;clinking beer mugs;beers",
    "🍼;baby bottle;baby_bottle",
    "🍽️;fork and knife with plate;plate_with_cutlery",
    "🍾;bottle with popping cork;champagne",
    "🍿;popcorn;popcorn",
    "🎀;ribbon;ribbon",
    "🎁;wrapped gift;gift",
    "🎂;birthday cake;birthday",
    "🎃;jack-o-lantern;jack_o_lantern",
    "🎄;Christmas tree;christmas_tree",
    "+🎅;Santa Claus;santa",
    "🎆;fireworks;fireworks",
    "🎇;sparkler;sparkler",
    "🎈;balloon;balloon",
    "🎉;party popper;tada",
    "🎊;confetti ball;confetti_ball",
    "🎋;tanabata tree;tanabata_tree",
    "🎌;crossed flags;crossed_flags",
    "🎍;pine decoration;bamboo",
    "🎎;Japanese dolls;dolls",
    "🎏;carp streamer;flags",
    "🎐;wind chime;wind_chime",
    "🎑;moon viewing ceremony;rice_scene",
    "🎒;backpack;school_satchel",
    "🎓;graduation cap;mortar_board",
    "🎖️;military medal;medal_military",
    "🎗️;reminder ribbon;reminder_ribbon",
    "🎙️;studio microphone;studio_microphone",
    "🎚️;level slider;level_slider",
    "🎛️;control knobs;control_knobs",
    "🎞️;film frames;film_strip",
    "🎟️;admission tickets;tickets",
    "🎠;carousel horse;carousel_horse",
    "🎡;ferris wheel;ferris_wheel",
    "🎢;roller coaster;roller_coaster",
    "🎣;fishing pole;fishing_pole_and_fish",
    "🎤;microphone;microphone",
    "🎥;movie camera;movie_camera",
    "🎦;cinema;cinema",
    "🎧;headphone;headphones",
    "🎨;artist palette;art",
    "🎩;top hat;tophat",
    "🎪;circus tent;circus_tent",
    "🎫;ticket;ticket",
    "🎬;clapper board;clapper",
    "🎭;performing arts;performing_arts",
    "🎮;video game;video_game",
    "🎯;bullseye;dart",
    "🎰;slot machine;slot_machine",
    "🎱;pool 8 ball;8ball",
    "🎲;game die;game_die",
    "🎳;bowling;bowling",
    "🎴;flower playing cards;flower_playing_cards",
    "🎵;musical note;musical_note",
    "🎶;musical notes;notes",
    "🎷;saxophone;saxophone",
    "🎸;guitar;guitar",
    "🎹;musical keyboard;musical_keyboard",
    "🎺;trumpet;trumpet",
    "🎻;violin;violin",
    "🎼;musical score;musical_score",
    "🎽;running shirt;running_shirt_with_sash",
    "🎾;tennis;tennis",
    "🎿;skis;ski",
    "🏀;basketball;basketball",
    "🏁;chequered flag;checkered_flag",
    "+🏂;snowboarder;snowboarder",
    "+🏃;person running;runner,running",
    "+🏄;person surfing;surfer",
    "🏅;sports medal;medal_sports",
    "🏆;trophy;trophy",
    "+🏇;horse racing;horse_racing",
    "🏈;american football;football",
    "🏉;rugby football;rugby_football",
    "+🏊;person swimming;swimmer",
    "+🏋️;person lifting weights;weight_lifting",
    "+🏌️;person golfing;golfing",
    "🏍️;motorcycle;motorcycle",
    "🏎️;racing car;racing_car",
    "🏏;cricket game;cricket_game",
    "🏐;volleyball;volleyball",
    "🏑;field hockey;field_hockey",
    "🏒;ice hockey;ice_hockey",
    "🏓;ping pong;ping_pong",
    "🏔️;snow-capped mountain;mountain_snow",
    "🏕️;camping;camping",
    "🏖️;beach with umbrella;beach_umbrella",
    "🏗️;building construction;building_construction",
    "🏘️;houses;houses",
    "🏙️;cityscape;cityscape",
    "🏚️;derelict house;derelict_house",
    "🏛️;classical building;classical_building",
    "🏜️;desert;desert",
    "🏝️;desert island;desert_island",
    "🏞️;national park;national_park",
    "🏟️;stadium;stadium",
    "🏠;house;house",
    "🏡;house with garden;house_with_garden",
    "🏢;office building;office",
    "🏣;Japanese post office;post_office",
    "🏤;post office;european_post_office",
    "🏥;hospital;hospital",
    "🏦;bank;bank",
    "🏧;ATM sign;atm",
    "🏨;hotel;hotel",
    "🏩;love hotel;love_hotel",
    "🏪;convenience store;convenience_store",
    "🏫;school;school",
    "🏬;department store;department_store",
    "🏭;factory;factory",
    "🏮;red paper lantern;izakaya_lantern,lantern",
    "🏯;Japanese castle;japanese_castle",
    "🏰;castle;european_castle",
    "🏳️;white flag;white_flag",
    "🏴;black flag;black_flag",
    "🏵️;rosette;rosette",
    "🏷️;label;label",
    "🏸;badminton;badminton",
    "🏹;bow and arrow;bow_and_arrow",
    "🏺;amphora;amphora",
    "🐀;rat;rat",
    "🐁;mouse;mouse2",
    "🐂;ox;ox",
    "🐃;water buffalo;water_buffalo",
    "🐄;cow;cow2",
    "🐅;tiger;tiger2",
    "🐆;leopard;leopard",
    "🐇;rabbit;rabbit2",
    "🐈;cat;cat2",
    "🐉;dragon;dragon",
    "🐊;crocodile;crocodile",
    "🐋;whale;whale2",
    "🐌;snail;snail",
    "🐍;snake;snake",
    "🐎;horse;racehorse",
    "🐏;ram;ram",
    "🐐;goat;goat",
    "🐑;ewe;sheep",
    "🐒;monkey;monkey",
    "🐓;rooster;rooster",
    "🐔;chicken;chicken",
    "🐕;dog;dog2",
    "🐖;pig;pig2",
    "🐗;boar;boar",
    "🐘;elephant;elephant",
    "🐙;octopus;octopus",
    "🐚;spiral shell;shell",
    "🐛;bug;bug",
    "🐜;ant;ant",
    "🐝;honeybee;bee,honeybee",
    "🐞;lady beetle;lady_beetle",
    "🐟;fish;fish",
    "🐠;tropical fish;tropical_fish",
    "🐡;blowfish;blowfish",
    "🐢;turtle;turtle",
    "🐣;hatching chick;hatching_chick",
    "🐤;baby chick;baby_chick",
    "🐥;front-facing baby chick;hatched_chick",
    "🐦;bird;bird",
    "🐧;penguin;penguin",
    "🐨;koala;koala",
    "🐩;poodle;poodle",
    "🐪;camel;dromedary_camel",
    "🐫;two-hump camel;camel",
    "🐬;dolphin;dolphin,flipper",
    "🐭;mouse face;mouse",
    "🐮;cow face;cow",
    "🐯;tiger face;tiger",
    "🐰;rabbit face;rabbit",
    "🐱;cat face;cat",
    "🐲;dragon face;dragon_face",
    "🐳;spouting whale;whale",
    "🐴;horse face;horse",
    "🐵;monkey face;monkey_face",
    "🐶;dog face;dog",
    "🐷;pig face;pig",
    "🐸;frog;frog",
    "🐹;hamster;hamster",
    "🐺;wolf;wolf",
    "🐻;bear;bear",
    "🐼;panda;panda_face",
    "🐽;pig nose;pig_nose",
    "🐾;paw prints;feet,paw_prints",
    "🐿️;chipmunk;chipmunk",
    "👀;eyes;eyes",
    "👁️;eye;eye",
    "+👂;ear;ear",
    "+👃;nose;nose",
    "👄;mouth;lips",
    "👅;tongue;tongue",
    "+👆;backhand index pointing up;point_up_2",
    "+👇;backhand index pointing down;point_down",
    "+👈;backhand index pointing left;point_left",
    "+👉;backhand index pointing right;point_right",
    "+👊;oncoming fist;fist_oncoming,facepunch,punch",
    "+👋;waving hand;wave",
    "+👌;OK hand;ok_hand",
    "+👍;thumbs up;+1,thumbsup",
    "+👎;thumbs down;-1,thumbsdown",
    "+👏;clapping hands;clap",
    "+👐;open hands;open_hands",
    "👑;crown;crown",
    "👒;woman’s hat;womans_hat",
    "👓;glasses;eyeglasses",
    "👔;necktie;necktie",
    "👕;t-shirt;shirt,tshirt",
    "👖;jeans;jeans",
    "👗;dress;dress",
    "👘;kimono;kimono",
    "👙;bikini;bikini",
    "👚;woman’s clothes;womans_clothes",
    "👛;purse;purse",
    "👜;handbag;handbag",
    "👝;clutch bag;pouch",
    "👞;man’s shoe;mans_shoe,shoe",
    "👟;running shoe;athletic_shoe",
    "👠;high-heeled shoe;high_heel",
    "👡;woman’s sandal;sandal",
    "👢;woman’s boot;boot",
    "👣;footprints;footprints",
    "👤;bust in silhouette;bust_in_silhouette",
    "👥;busts in silhouette;busts_in_silhouette",
    "+👦;boy;boy",
    "+👧;girl;girl",
    "+👨;man;man",
    "+👩;woman;woman",
    "👪;family;family",
    "+👫;woman and man holding hands;couple",
    "+👬;men holding hands;two_men_holding_hands",
    "+👭;women holding hands;two_women_holding_hands",
    "+👮;police officer;police_officer,cop",
    "👯;people with bunny ears;dancers",
    "+👰;person with veil;person_with_veil",
    "+👱;person: blond hair;blond_haired_person",
    "+👲;person with skullcap;man_with_gua_pi_mao",
    "+👳;person wearing turban;person_with_turban",
    "+👴;old man;older_man",
    "+👵;old woman;older_woman",
    "+👶;baby;baby",
    "+👷;construction worker;construction_worker",
    "+👸;princess;princess",
    "👹;ogre;japanese_ogre",
    "👺;goblin;japanese_goblin",
    "👻;ghost;ghost",
    "+👼;baby angel;angel",
    "👽;alien;alien",
    "👾;alien monster;space_invader",
    "👿;angry face with horns;imp",
    "💀;skull;skull",
    "+💁;person tipping hand;tipping_hand_person,information_desk_person",
    "+💂;guard;guard",
    "+💃;woman dancing;woman_dancing,dancer",
    "💄;lipstick;lipstick",
    "+💅;nail polish;nail_care",
    "+💆;person getting massage;massage",
    "+💇;person getting haircut;haircut",
    "💈;barber pole;barber",
    "💉;syringe;syringe",
    "💊;pill;pill",
    "💋;kiss mark;kiss",
    "💌;love letter;love_letter",
    "💍;ring;ring",
    "💎;gem stone;gem",
    "+💏;kiss;couplekiss",
    "💐;bouquet;bouquet",
    "+💑;couple with heart;couple_with_heart",
    "💒;wedding;wedding",
    "💓;beating heart;heartbeat",
    "💔;broken heart;broken_heart",
    "💕;two hearts;two_hearts",
    "💖;sparkling heart;sparkling_heart",
    "💗;growing heart;heartpulse",
    "💘;heart with arrow;cupid",
    "💙;blue heart;blue_heart",
    "💚;green heart;green_heart",
    "💛;yellow heart;yellow_heart",
    "💜;purple heart;purple_heart",
    "💝;heart with ribbon;gift_heart",
    "💞;revolving hearts;revolving_hearts",
    "💟;heart decoration;heart_decoration",
    "💠;diamond with a dot;diamond_shape_with_a_dot_inside",
    "💡;light bulb;bulb",
    "💢;anger symbol;anger",
    "💣;bomb;bomb",
    "💤;ZZZ;zzz",
    "💥;collision;boom,collision",
    "💦;sweat droplets;sweat_drops",
    "💧;droplet;droplet",
    "💨;dashing away;dash",
    "💩;pile of poo;hankey,poop,shit",
    "+💪;flexed biceps;muscle",
    "💫;dizzy;dizzy",
    "💬;speech balloon;speech_balloon",
    "💭;thought balloon;thought_balloon",
    "💮;white flower;white_flower",
    "💯;hundred points;100",
    "💰;money bag;moneybag",
    "💱;currency exchange;currency_exchange",
    "💲;heavy dollar sign;heavy_dollar_sign",
    "💳;credit card;credit_card",
    "💴;yen banknote;yen",
    "💵;dollar banknote;dollar",
    "💶;euro banknote;euro",
    "💷;pound banknote;pound",
    "💸;money with wings;money_with_wings",
    "💹;chart increasing with yen;chart",
    "💺;seat;seat",
    "💻;laptop;computer",
    "💼;briefcase;briefcase",
    "💽;computer disk;minidisc",
    "💾;floppy disk;floppy_disk",
    "💿;optical disk;cd",
    "📀;dvd;dvd",
    "📁;file folder;file_folder",
    "📂;open file folder;open_file_folder",
    "📃;page with curl;page_with_curl",
    "📄;page facing up;page_facing_up",
    "📅;calendar;date",
    "📆;tear-off calendar;calendar",
    "📇;card index;card_index",
    "📈;chart increasing;chart_with_upwards_trend",
    "📉;chart decreasing;chart_with_downwards_trend",
    "📊;bar chart;bar_chart",
    "📋;clipboard;clipboard",
    "📌;pushpin;pushpin",
    "📍;round pushpin;round_pushpin",
    "📎;paperclip;paperclip",
    "📏;straight ruler;straight_ruler",
    "📐;triangular ruler;triangular_ruler",
    "📑;bookmark tabs;bookmark_tabs",
    "📒;ledger;ledger",
    "📓;notebook;notebook",
    "📔;notebook with decorative cover;notebook_with_decorative_cover",
    "📕;closed book;closed_book",
    "📖;open book;book,open_book",
    "📗;green book;green_book",
    "📘;blue book;blue_book",
    "📙;orange book;orange_book",
    "📚;books;books",
    "📛;name badge;name_badge",
    "📜;scroll;scroll",
    "📝;memo;memo,pencil",
    "📞;telephone receiver;telephone_receiver",
    "📟;pager;pager",
    "📠;fax machine;fax",
    "📡;satellite antenna;satellite",
    "📢;loudspeaker;loudspeaker",
    "📣;megaphone;mega",
    "📤;outbox tray;outbox_tray",
    "📥;inbox tray;inbox_tray",
    "📦;package;package",
    "📧;e-mail;email,e-mail",
    "📨;incoming envelope;incoming_envelope",
    "📩;envelope with arrow;envelope_with_arrow",
    "📪;closed mailbox with lowered flag;mailbox_closed",
    "📫;closed mailbox with raised flag;mailbox",
    "📬;open mailbox with raised flag;mailbox_with_mail",
    "📭;open mailbox with lowered flag;mailbox_with_no_mail",
    "📮;postbox;postbox",
    "📯;postal horn;postal_horn",
    "📰;newspaper;newspaper",
    "📱;mobile phone;iphone",
    "📲;mobile phone with arrow;calling",
    "📳;vibration mode;vibration_mode",
    "📴;mobile phone off;mobile_phone_off",
    "📵;no mobile phones;no_mobile_phones",
    "📶;antenna bars;signal_strength",
    "📷;camera;camera",
    "📸;camera with flash;camera_flash",
    "📹;video camera;video_camera",
    "📺;television;tv",
    "📻;radio;radio",
    "📼;videocassette;vhs",
    "📽️;film projector;film_projector",
    "📿;prayer beads;prayer_beads",
    "🔀;shuffle tracks button;twisted_rightwards_arrows",
    "🔁;repeat button;repeat",
    "🔂;repeat single button;repeat_one",
    "🔃;clockwise vertical arrows;arrows_clockwise",
    "🔄;counterclockwise arrows button;arrows_counterclockwise",
    "🔅;dim button;low_brightness",
    "🔆;bright button;high_brightness",
    "🔇;muted speaker;mute",
    "🔈;speaker low volume;speaker",
    "🔉;speaker medium volume;sound",
    "🔊;speaker high volume;loud_sound",
    "🔋;battery;battery",
    "🔌;electric plug;electric_plug",
    "🔍;magnifying glass tilted left;mag",
    "🔎;magnifying glass tilted right;mag_right",
    "🔏;locked with pen;lock_with_ink_pen",
    "🔐;locked with key;closed_lock_with_key",
    "🔑;key;key",
    "🔒;locked;lock",
    "🔓;unlocked;unlock",
    "🔔;bell;bell",
    "🔕;bell with slash;no_bell",
    "🔖;bookmark;bookmark",
    "🔗;link;link",
    "🔘;radio button;radio_button",
    "🔙;BACK arrow;back",
    "🔚;END arrow;end",
    "🔛;ON! arrow;on",
    "🔜;SOON arrow;soon",
    "🔝;TOP arrow;top",
    "🔞;no one under eighteen;underage",
    "🔟;keycap: 10;keycap_ten",
    "🔠;input latin uppercase;capital_abcd",
    "🔡;input latin lowercase;abcd",
    "🔢;input numbers;1234",
    "🔣;input symbols;symbols",
    "🔤;input latin letters;abc",
    "🔥;fire;fire",
    "🔦;flashlight;flashlight",
    "🔧;wrench;wrench",
    "🔨;hammer;hammer",
    "🔩;nut and bolt;nut_and_bolt",
    "🔪;kitchen knife;hocho,knife",
    "🔫;water pistol;gun",
    "🔬;microscope;microscope",
    "🔭;telescope;telescope",
    "🔮;crystal ball;crystal_ball",
    "🔯;dotted six-pointed star;six_pointed_star",
    "🔰;Japanese symbol for beginner;beginner",
    "🔱;trident emblem;trident",
    "🔲;black square button;black_square_button",
    "🔳;white square button;white_square_button",
    "🔴;red circle;red_circle",
    "🔵;blue circle;large_blue_circle",
    "🔶;large orange diamond;large_orange_diamond",
    "🔷;large blue diamond;large_blue_diamond",
    "🔸;small orange diamond;small_orange_diamond",
    "🔹;small blue diamond;small_blue_diamond",
    "🔺;red triangle pointed up;small_red_triangle",
    "🔻;red triangle pointed down;small_red_triangle_down",
    "🔼;upwards button;arrow_up_small",
    "🔽;downwards button;arrow_down_small",
    "🕉️;om;om",
    "🕊️;dove;dove",
    "🕋;kaaba;kaaba",
    "🕌;mosque;mosque",
    "🕍;synagogue;synagogue",
    "🕎;menorah;menorah",
    "🕐;one o’clock;clock1",
    "🕑;two o’clock;clock2",
    "🕒;three o’clock;clock3",
    "🕓;four o’clock;clock4",
    "🕔;five o’clock;clock5",
    "🕕;six o’clock;clock6",
    "🕖;seven o’clock;clock7",
    "🕗;eight o’clock;clock8",
    "🕘;nine o’clock;clock9",
    "🕙;ten o’clock;clock10",
    "🕚;eleven o’clock;clock11",
    "🕛;twelve o’clock;clock12",
    "🕜;one-thirty;clock130",
    "🕝;two-thirty;clock230",
    "🕞;three-thirty;clock330",
    "🕟;four-thirty;clock430",
    "🕠;five-thirty;clock530",
    "🕡;six-thirty;clock630",
    "🕢;seven-thirty;clock730",
    "🕣;eight-thirty;clock830",
    "🕤;nine-thirty;clock930",
    "🕥;ten-thirty;clock1030",
    "🕦;eleven-thirty;clock1130",
    "🕧;twelve-thirty;clock1230",
    "🕯️;candle;candle",
    "🕰️;mantelpiece clock;mantelpiece_clock",
    "🕳️;hole;hole",
    "+🕴️;person in suit levitating;business_suit_levitating",
    "+🕵️;detective;detective",
    "🕶️;sunglasses;dark_sunglasses",
    "🕷️;spider;spider",
    "🕸️;spider web;spider_web",
    "🕹️;joystick;joystick",
    "+🕺;man dancing;man_dancing",
    "🖇️;linked paperclips;paperclips",
    "🖊️;pen;pen",
    "🖋️;fountain pen;fountain_pen",
    "🖌️;paintbrush;paintbrush",
    "🖍️;crayon;crayon",
    "+🖐️;hand with fingers splayed;raised_hand_with_fingers_splayed",
    "+🖕;middle finger;middle_finger,fu",
    "+🖖;vulcan salute;vulcan_salute",
    "🖤;black heart;black_heart",
    "🖥️;desktop computer;desktop_computer",
    "🖨️;printer;printer",
    "🖱️;computer mouse;computer_mouse",
    "🖲️;trackball;trackball",
    "🖼️;framed picture;framed_picture",
    "🗂️;card index dividers;card_index_dividers",
    "🗃️;card file box;card_file_box",
    "🗄️;file cabinet;file_cabinet",
    "🗑️;wastebasket;wastebasket",
    "🗒️;spiral notepad;spiral_notepad",
    "🗓️;spiral calendar;spiral_calendar",
    "🗜️;clamp;clamp",
    "🗝️;old key;old_key",
    "🗞️;rolled-up newspaper;newspaper_roll",
    "🗡️;dagger;dagger",
    "🗣️;speaking head;speaking_head",
    "🗨️;left speech bubble;left_speech_bubble",
    "🗯️;right anger bubble;right_anger_bubble",
    "🗳️;ballot box with ballot;ballot_box",
    "🗺️;world map;world_map",
    "🗻;mount fuji;mount_fuji",
    "🗼;Tokyo tower;tokyo_tower",
    "🗽;Statue of Liberty;statue_of_liberty",
    "🗾;map of Japan;japan",
    "🗿;moai;moyai",
    "😀;grinning face;grinning",
    "😁;beaming face with smiling eyes;grin",
    "😂;face with tears of joy;joy",
    "😃;grinning face with big eyes;smiley",
    "😄;grinning face with smiling eyes;smile",
    "😅;grinning face with sweat;sweat_smile",
    "😆;grinning squinting face;laughing,satisfied",
    "😇;smiling face with halo;innocent",
    "😈;smiling face with horns;smiling_imp",
    "😉;winking face;wink",
    "😊;smiling face with smiling eyes;blush",
    "😋;face savoring food;yum",
    "😌;relieved face;relieved",
    "😍;smiling face with heart-eyes;heart_eyes",
    "😎;smiling face with sunglasses;sunglasses",
    "😏;smirking face;smirk",
    "😐;neutral face;neutral_face",
    "😑;expressionless face;expressionless",
    "😒;unamused face;unamused",
    "😓;downcast face with sweat;sweat",
    "😔;pensive face;pensive",
    "😕;confused face;confused",
    "😖;confounded face;confounded",
    "😗;kissing face;kissing",
    "😘;face blowing a kiss;kissing_heart",
    "😙;kissing face with smiling eyes;kissing_smiling_eyes",
    "😚;kissing face with closed eyes;kissing_closed_eyes",
    "😛;face with tongue;stuck_out_tongue",
    "😜;winking face with tongue;stuck_out_tongue_winking_eye",
    "😝;squinting face with tongue;stuck_out_tongue_closed_eyes",
    "😞;disappointed face;disappointed",
    "😟;worried face;worried",
    "😠;angry face;angry",
    "😡;enraged face;rage,pout",
    "😢;crying face;cry",
    "😣;persevering face;persevere",
    "😤;face with steam from nose;triumph",
    "😥;sad but relieved face;disappointed_relieved",
    "😦;frowning face with open mouth;frowning",
    "😧;anguished face;anguished",
    "😨;fearful face;fearful",
    "😩;weary face;weary",
    "😪;sleepy face;sleepy",
    "😫;tired face;tired_face",
    "😬;grimacing face;grimacing",
    "😭;loudly crying face;sob",
    "😮;face with open mouth;open_mouth",
    "😯;hushed face;hushed",
    "😰;anxious face with sweat;cold_sweat",
    "😱;face screaming in fear;scream",
    "😲;astonished face;astonished",
    "😳;flushed face;flushed",
    "😴;sleeping face;sleeping",
    "😵;face with crossed-out eyes;dizzy_face",
    "😶;face without mouth;no_mouth",
    "😷;face with medical mask;mask",
    "😸;grinning cat with smiling eyes;smile_cat",
    "😹;cat with tears of joy;joy_cat",
    "😺;grinning cat;smiley_cat",
    "😻;smiling cat with heart-eyes;heart_eyes_cat",
    "😼;cat with wry smile;smirk_cat",
    "😽;kissing cat;kissing_cat",
    "😾;pouting cat;pouting_cat",
    "😿;crying cat;crying_cat_face",
    "🙀;weary cat;scream_cat",
    "🙁;slightly frowning face;slightly_frowning_face",
    "🙂;slightly smiling face;slightly_smiling_face",
    "🙃;upside-down face;upside_down_face",
    "🙄;face with rolling eyes;roll_eyes",
    "+🙅;person gesturing NO;no_good",
    "+🙆;person gesturing OK;ok_person",
    "+🙇;person bowing;bow",
    "🙈;see-no-evil monkey;see_no_evil",
    "🙉;hear-no-evil monkey;hear_no_evil",
    "🙊;speak-no-evil monkey;speak_no_evil",
    "+🙋;person raising hand;raising_hand",
    "+🙌;raising hands;raised_hands",
    "+🙍;person frowning;frowning_person",
    "+🙎;person pouting;pouting_face",
    "+🙏;folded hands;pray",
    "🚀;rocket;rocket",
    "🚁;helicopter;helicopter",
    "🚂;locomotive;steam_locomotive",
    "🚃;railway car;railway_car",
    "🚄;high-speed train;bullettrain_side",
    "🚅;bullet train;bullettrain_front",
    "🚆;train;train2",
    "🚇;metro;metro",
    "🚈;light rail;light_rail",
    "🚉;station;station",
    "🚊;tram;tram",
    "🚋;tram car;train",
    "🚌;bus;bus",
    "🚍;oncoming bus;oncoming_bus",
    "🚎;trolleybus;trolleybus",
    "🚏;bus stop;busstop",
    "🚐;minibus;minibus",
    "🚑;ambulance;ambulance",
    "🚒;fire engine;fire_engine",
    "🚓;police car;police_car",
    "🚔;oncoming police car;oncoming_police_car",
    "🚕;taxi;taxi",
    "🚖;oncoming taxi;oncoming_taxi",
    "🚗;automobile;car,red_car",
    "🚘;oncoming automobile;oncoming_automobile",
    "🚙;sport utility vehicle;blue_car",
    "🚚;delivery truck;truck",
    "🚛;articulated lorry;articulated_lorry",
    "🚜;tractor;tractor",
    "🚝;monorail;monorail",
    "🚞;mountain railway;mountain_railway",
    "🚟;suspension railway;suspension_railway",
    "🚠;mountain cableway;mountain_cableway",
    "🚡;aerial tramway;aerial_tramway",
    "🚢;ship;ship",
    "+🚣;person rowing boat;rowboat",
    "🚤;speedboat;speedboat",
    "🚥;horizontal traffic light;traffic_light",
    "🚦;vertical traffic light;vertical_traffic_light",
    "🚧;construction;construction",
    "🚨;police car light;rotating_light",
    "🚩;triangular flag;triangular_flag_on_post",
    "🚪;door;door",
    "🚫;prohibited;no_entry_sign",
    "🚬;cigarette;smoking",
    "🚭;no smoking;no_smoking",
    "🚮;litter in bin sign;put_litter_in_its_place",
    "🚯;no littering;do_not_litter",
    "🚰;potable water;potable_water",
    "🚱;non-potable water;non-potable_water",
    "🚲;bicycle;bike",
    "🚳;no bicycles;no_bicycles",
    "+🚴;person biking;bicyclist",
    "+🚵;person mountain biking;mountain_bicyclist",
    "+🚶;person walking;walking",
    "🚷;no pedestrians;no_pedestrians",
    "🚸;children crossing;children_crossing",
    "🚹;men’s room;mens",
    "🚺;women’s room;womens",
    "🚻;restroom;restroom",
    "🚼;baby symbol;baby_symbol",
    "🚽;toilet;toilet",
    "🚾;water closet;wc",
    "🚿;shower;shower",
    "+🛀;person taking bath;bath",
    "🛁;bathtub;bathtub",
    "🛂;passport control;passport_control",
    "🛃;customs;customs",
    "🛄;baggage claim;baggage_claim",
    "🛅;left luggage;left_luggage",
    "🛋️;couch and lamp;couch_and_lamp",
    "+🛌;person in bed;sleeping_bed",
    "🛍️;shopping bags;shopping",
    "🛎️;bellhop bell;bellhop_bell",
    "🛏️;bed;bed",
    "🛐;place of worship;place_of_worship",
    "🛑;stop sign;stop_sign",
    "🛒;shopping cart;shopping_cart",
    "🛕;hindu temple;hindu_temple",
    "🛖;hut;hut",
    "🛗;elevator;elevator",
    "🛜;wireless;wireless",
    "🛝;playground slide;playground_slide",
    "🛞;wheel;wheel",
    "🛟;ring buoy;ring_buoy",
    "🛠️;hammer and wrench;hammer_and_wrench",
    "🛡️;shield;shield",
    "🛢️;oil drum;oil_drum",
    "🛣️;motorway;motorway",
    "🛤️;railway track;railway_track",
    "🛥️;motor boat;motor_boat",
    "🛩️;small airplane;small_airplane",
    "🛫;airplane departure;flight_departure",
    "🛬;airplane arrival;flight_arrival",
    "🛰️;satellite;artificial_satellite",
    "🛳️;passenger ship;passenger_ship",
    "🛴;kick scooter;kick_scooter",
    "🛵;motor scooter;motor_scooter",
    "🛶;canoe;canoe",
    "🛷;sled;sled",
    "🛸;flying saucer;flying_saucer",
    "🛹;skateboard;skateboard",
    "🛺;auto rickshaw;auto_rickshaw",
    "🛻;pickup truck;pickup_truck",
    "🛼;roller skate;roller_skate",
    "🟠;orange circle;orange_circle",
    "🟡;yellow circle;yellow_circle",
    "🟢;green circle;green_circle",
    "🟣;purple circle;purple_circle",
    "🟤;brown circle;brown_circle",
    "🟥;red square;red_square",
    "🟦;blue square;blue_square",
    "🟧;orange square;orange_square",
    "🟨;yellow square;yellow_square",
    "🟩;green square;green_square",
    "🟪;purple square;purple_square",
    "🟫;brown square;brown_square",
    "🟰;heavy equals sign;heavy_equals_sign",
    "+🤌;pinched fingers;pinched_fingers",
    "🤍;white heart;white_heart",
    "🤎;brown heart;brown_heart",
    "+🤏;pinching hand;pinching_hand",
    "🤐;zipper-mouth face;zipper_mouth_face",
    "🤑;money-mouth face;money_mouth_face",
    "🤒;face with thermometer;face_with_thermometer",
    "🤓;nerd face;nerd_face",
    "🤔;thinking face;thinking",
    "🤕;face with head-bandage;face_with_head_bandage",
    "🤖;robot;robot",
    "🤗;smiling face with open hands;hugs",
    "+🤘;sign of the horns;metal",
    "+🤙;call me hand;call_me_hand",
    "+🤚;raised back of hand;raised_back_of_hand",
    "+🤛;left-facing fist;fist_left",
    "+🤜;right-facing fist;fist_right",
    "+🤝;handshake;handshake",
    "+🤞;crossed fingers;crossed_fingers",
    "+🤟;love-you gesture;love_you_gesture",
    "🤠;cowboy hat face;cowboy_hat_face",
    "🤡;clown face;clown_face",
    "🤢;nauseated face;nauseated_face",
    "🤣;rolling on the floor laughing;rofl",
    "🤤;drooling face;drooling_face",
    "🤥;lying face;lying_face",
    "+🤦;person facepalming;facepalm",
    "🤧;sneezing face;sneezing_face",
    "🤨;face with raised eyebrow;raised_eyebrow",
    "🤩;star-struck;star_struck",
    "🤪;zany face;zany_face",
    "🤫;shushing face;shushing_face",
    "🤬;face with symbols on mouth;cursing_face",
    "🤭;face with hand over mouth;hand_over_mouth",
    "🤮;face vomiting;vomiting_face",
    "🤯;exploding head;exploding_head",
    "+🤰;pregnant woman;pregnant_woman",
    "+🤱;breast-feeding;breast_feeding",
    "+🤲;palms up together;palms_up_together",
    "+🤳;selfie;selfie",
    "+🤴;prince;prince",
    "+🤵;person in tuxedo;person_in_tuxedo",
    "+🤶;Mrs. Claus;mrs_claus",
    "+🤷;person shrugging;shrug",
    "+🤸;person cartwheeling;cartwheeling",
    "+🤹;person juggling;juggling_person",
    "🤺;person fencing;person_fencing",
    "🤼;people wrestling;wrestling",
    "+🤽;person playing water polo;water_polo",
    "+🤾;person playing handball;handball_person",
    "🤿;diving mask;diving_mask",
    "🥀;wilted flower;wilted_flower",
    "🥁;drum;drum",
    "🥂;clinking glasses;clinking_glasses",
    "🥃;tumbler glass;tumbler_glass",
    "🥄;spoon;spoon",
    "🥅;goal net;goal_net",
    "🥇;1st place medal;1st_place_medal",
    "🥈;2nd place medal;2nd_place_medal",
    "🥉;3rd place medal;3rd_place_medal",
    "🥊;boxing glove;boxing_glove",
    "🥋;martial arts uniform;martial_arts_uniform",
    "🥌;curling stone;curling_stone",
    "🥍;lacrosse;lacrosse",
    "🥎;softball;softball",
    "🥏;flying disc;flying_disc",
    "🥐;croissant;croissant",
    "🥑;avocado;avocado",
    "🥒;cucumber;cucumber",
    "🥓;bacon;bacon",
    "🥔;potato;potato",
    "🥕;carrot;carrot",
    "🥖;baguette bread;baguette_bread",
    "🥗;green salad;green_salad",
    "🥘;shallow pan of food;shallow_pan_of_food",
    "🥙;stuffed flatbread;stuffed_flatbread",
    "🥚;egg;egg",
    "🥛;glass of milk;milk_glass",
    "🥜;peanuts;peanuts",
    "🥝;kiwi fruit;kiwi_fruit",
    "🥞;pancakes;pancakes",
    "🥟;dumpling;dumpling",
    "🥠;fortune cookie;fortune_cookie",
    "🥡;takeout box;takeout_box",
    "🥢;chopsticks;chopsticks",
    "🥣;bowl with spoon;bowl_with_spoon",
    "🥤;cup with straw;cup_with_straw",
    "🥥;coconut;coconut",
    "🥦;broccoli;broccoli",
    "🥧;pie;pie",
    "🥨;pretzel;pretzel",
    "🥩;cut of meat;cut_of_meat",
    "🥪;sandwich;sandwich",
    "🥫;canned food;canned_food",
    "🥬;leafy green;leafy_green",
    "🥭;mango;mango",
    "🥮;moon cake;moon_cake",
    "🥯;bagel;bagel",
    "🥰;smiling face with hearts;smiling_face_with_three_hearts",
    "🥱;yawning face;yawning_face",
    "🥲;smiling face with tear;smiling_face_with_tear",
    "🥳;partying face;partying_face",
    "🥴;woozy face;woozy_face",
    "🥵;hot face;hot_face",
    "🥶;cold face;cold_face",
    "+🥷;ninja;ninja",
    "🥸;disguised face;disguised_face",
    "🥹;face holding back tears;face_holding_back_tears",
    "🥺;pleading face;pleading_face",
    "🥻;sari;sari",
    "🥼;lab coat;lab_coat",
    "🥽;goggles;goggles",
    "🥾;hiking boot;hiking_boot",
    "🥿;flat shoe;flat_shoe",
    "🦀;crab;crab",
    "🦁;lion;lion",
    "🦂;scorpion;scorpion",
    "🦃;turkey;turkey",
    "🦄;unicorn;unicorn",
    "🦅;eagle;eagle",
    "🦆;duck;duck",
    "🦇;bat;bat",
    "🦈;shark;shark",
    "🦉;owl;owl",
    "🦊;fox;fox_face",
    "🦋;butterfly;butterfly",
    "🦌;deer;deer",
    "🦍;gorilla;gorilla",
    "🦎;lizard;lizard",
    "🦏;rhinoceros;rhinoceros",
    "🦐;shrimp;shrimp",
    "🦑;squid;squid",
    "🦒;giraffe;giraffe",
    "🦓;zebra;zebra",
    "🦔;hedgehog;hedgehog",
    "🦕;sauropod;sauropod",
    "🦖;T-Rex;t-rex",
    "🦗;cricket;cricket",
    "🦘;kangaroo;kangaroo",
    "🦙;llama;llama",
    "🦚;peacock;peacock",
    "🦛;hippopotamus;hippopotamus",
    "🦜;parrot;parrot",
    "🦝;raccoon;raccoon",
    "🦞;lobster;lobster",
    "🦟;mosquito;mosquito",
    "🦠;microbe;microbe",
    "🦡;badger;badger",
    "🦢;swan;swan",
    "🦣;mammoth;mammoth",
    "🦤;dodo;dodo",
    "🦥;sloth;sloth",
    "🦦;otter;otter",
    "🦧;orangutan;orangutan",
    "🦨;skunk;skunk",
    "🦩;flamingo;flamingo",
    "🦪;oyster;oyster",
    "🦫;beaver;beaver",
    "🦬;bison;bison",
    "🦭;seal;seal",
    "🦮;guide dog;guide_dog",
    "🦯;white cane;probing_cane",
    "🦴;bone;bone",
    "+🦵;leg;leg",
    "+🦶;foot;foot",
    "🦷;tooth;tooth",
    "+🦸;superhero;superhero",
    "+🦹;supervillain;supervillain",
    "🦺;safety vest;safety_vest",
    "+🦻;ear with hearing aid;ear_with_hearing_aid",
    "🦼;motorized wheelchair;motorized_wheelchair",
    "🦽;manual wheelchair;manual_wheelchair",
    "🦾;mechanical arm;mechanical_arm",
    "🦿;mechanical leg;mechanical_leg",
    "🧀;cheese wedge;cheese",
    "🧁;cupcake;cupcake",
    "🧂;salt;salt",
    "🧃;beverage box;beverage_box",
    "🧄;garlic;garlic",
    "🧅;onion;onion",
    "🧆;falafel;falafel",
    "🧇;waffle;waffle",
    "🧈;butter;butter",
    "🧉;mate;mate",
    "🧊;ice;ice_cube",
    "🧋;bubble tea;bubble_tea",
    "🧌;troll;troll",
    "+🧍;person standing;standing_person",
    "+🧎;person kneeling;kneeling_person",
    "+🧏;deaf person;deaf_person",
    "🧐;face with monocle;monocle_face",
    "+🧑;person;adult",
    "+🧒;child;child",
    "+🧓;older person;older_adult",
    "+🧔;person: beard;bearded_person",
    "+🧕;woman with headscarf;woman_with_headscarf",
    "+🧖;person in steamy room;sauna_person",
    "+🧗;person climbing;climbing",
    "+🧘;person in lotus position;lotus_position",
    "+🧙;mage;mage",
    "+🧚;fairy;fairy",
    "+🧛;vampire;vampire",
    "+🧜;merperson;merperson",
    "+🧝;elf;elf",
    "🧞;genie;genie",
    "🧟;zombie;zombie",
    "🧠;brain;brain",
    "🧡;orange heart;orange_heart",
    "🧢;billed cap;billed_cap",
    "🧣;scarf;scarf",
    "🧤;gloves;gloves",
    "🧥;coat;coat",
    "🧦;socks;socks",
    "🧧;red envelope;red_envelope",
    "🧨;firecracker;firecracker",
    "🧩;puzzle piece;jigsaw",
    "🧪;test tube;test_tube",
    "🧫;petri dish;petri_dish",
    "🧬;dna;dna",
    "🧭;compass;compass",
    "🧮;abacus;abacus",
    "🧯;fire extinguisher;fire_extinguisher",
    "🧰;toolbox;toolbox",
    "🧱;brick;bricks",
    "🧲;magnet;magnet",
    "🧳;luggage;luggage",
    "🧴;lotion bottle;lotion_bottle",
    "🧵;thread;thread",
    "🧶;yarn;yarn",
    "🧷;safety pin;safety_pin",
    "🧸;teddy bear;teddy_bear",
    "🧹;broom;broom",
    "🧺;basket;basket",
    "🧻;roll of paper;roll_of_paper",
    "🧼;soap;soap",
    "🧽;sponge;sponge",
    "🧾;receipt;receipt",
    "🧿;nazar amulet;nazar_amulet",
    "🩰;ballet shoes;ballet_shoes",
    "🩱;one-piece swimsuit;one_piece_swimsuit",
    "🩲;briefs;swim_brief",
    "🩳;shorts;shorts",
    "🩴;thong sandal;thong_sandal",
    "🩵;light blue heart;light_blue_heart",
    "🩶;grey heart;grey_heart",
    "🩷;pink heart;pink_heart",
    "🩸;drop of blood;drop_of_blood",
    "🩹;adhesive bandage;adhesive_bandage",
    "🩺;stethoscope;stethoscope",
    "🩻;x-ray;x_ray",
    "🩼;crutch;crutch",
    "🪀;yo-yo;yo_yo",
    "🪁;kite;kite",
    "🪂;parachute;parachute",
    "🪃;boomerang;boomerang",
    "🪄;magic wand;magic_wand",
    "🪅;piñata;pinata",
    "🪆;nesting dolls;nesting_dolls",
    "🪇;maracas;maracas",
    "🪈;flute;flute",
    "🪐;ringed planet;ringed_planet",
    "🪑;chair;chair",
    "🪒;razor;razor",
    "🪓;axe;axe",
    "🪔;diya lamp;diya_lamp",
    "🪕;banjo;banjo",
    "🪖;military helmet;military_helmet",
    "🪗;accordion;accordion",
    "🪘;long drum;long_drum",
    "🪙;coin;coin",
    "🪚;carpentry saw;carpentry_saw",
    "🪛;screwdriver;screwdriver",
    "🪜;ladder;ladder",
    "🪝;hook;hook",
    "🪞;mirror;mirror",
    "🪟;window;window",
    "🪠;plunger;plunger",
    "🪡;sewing needle;sewing_needle",
    "🪢;knot;knot",
    "🪣;bucket;bucket",
    "🪤;mouse trap;mouse_trap",
    "🪥;toothbrush;toothbrush",
    "🪦;headstone;headstone",
    "🪧;placard;placard",
    "🪨;rock;rock",
    "🪩;mirror ball;mirror_ball",
    "🪪;identification card;identification_card",
    "🪫;low battery;low_battery",
    "🪬;hamsa;hamsa",
    "🪭;folding hand fan;folding_hand_fan",
    "🪮;hair pick;hair_pick",
    "🪯;khanda;khanda",
    "🪰;fly;fly",
    "🪱;worm;worm",
    "🪲;beetle;beetle",
    "🪳;cockroach;cockroach",
    "🪴;potted plant;potted_plant",
    "🪵;wood;wood",
    "🪶;feather;feather",
    "🪷;lotus;lotus",
    "🪸;coral;coral",
    "🪹;empty nest;empty_nest",
    "🪺;nest with eggs;nest_with_eggs",
    "🪻;hyacinth;hyacinth",
    "🪼;jellyfish;jellyfish",
    "🪽;wing;wing",
    "🪿;goose;goose",
    "🫀;anatomical heart;anatomical_heart",
    "🫁;lungs;lungs",
    "🫂;people hugging;people_hugging",
    "+🫃;pregnant man;pregnant_man",
    "+🫄;pregnant person;pregnant_person",
    "+🫅;person with crown;person_with_crown",
    "🫎;moose;moose",
    "🫏;donkey;donkey",
    "🫐;blueberries;blueberries",
    "🫑;bell pepper;bell_pepper",
    "🫒;olive;olive",
    "🫓;flatbread;flatbread",
    "🫔;tamale;tamale",
    "🫕;fondue;fondue",
    "🫖;teapot;teapot",
    "🫗;pouring liquid;pouring_liquid",
    "🫘;beans;beans",
    "🫙;jar;jar",
    "🫚;ginger root;ginger_root",
    "🫛;pea pod;pea_pod",
    "🫠;melting face;melting_face",
    "🫡;saluting face;saluting_face",
    "🫢;face with open eyes and hand over mouth;face_with_open_eyes_and_hand_over_mouth",
    "🫣;face with peeking eye;face_with_peeking_eye",
    "🫤;face with diagonal mouth;face_with_diagonal_mouth",
    "🫥;dotted line face;dotted_line_face",
    "🫦;biting lip;biting_lip",
    "🫧;bubbles;bubbles",
    "🫨;shaking face;shaking_face",
    "+🫰;hand with index finger and thumb crossed;hand_with_index_finger_and_thumb_crossed",
    "+🫱;rightwards hand;rightwards_hand",
    "+🫲;leftwards hand;leftwards_hand",
    "+🫳;palm down hand;palm_down_hand",
    "+🫴;palm up hand;palm_up_hand",
    "+🫵;index pointing at the viewer;index_pointing_at_the_viewer",
    "+🫶;heart hands;heart_hands",
    "+🫷;leftwards pushing hand;leftwards_pushing_hand",
    "+🫸;rightwards pushing hand;rightwards_pushing_hand",
    "#️⃣;keycap: #;hash",
    "*️⃣;keycap: *;asterisk",
    "0️⃣;keycap: 0;zero",
    "1️⃣;keycap: 1;one",
    "2️⃣;keycap: 2;two",
    "3️⃣;keycap: 3;three",
    "4️⃣;keycap: 4;four",
    "5️⃣;keycap: 5;five",
    "6️⃣;keycap: 6;six",
    "7️⃣;keycap: 7;seven",
    "8️⃣;keycap: 8;eight",
    "9️⃣;keycap: 9;nine",
    "🇦🇨;flag: Ascension Island;ascension_island",
    "🇦🇩;flag: Andorra;andorra",
    "🇦🇪;flag: United Arab Emirates;united_arab_emirates",
    "🇦🇫;flag: Afghanistan;afghanistan",
    "🇦🇬;flag: Antigua & Barbuda;antigua_barbuda",
    "🇦🇮;flag: Anguilla;anguilla",
    "🇦🇱;flag: Albania;albania",
    "🇦🇲;flag: Armenia;armenia",
    "🇦🇴;flag: Angola;angola",
    "🇦🇶;flag: Antarctica;antarctica",
    "🇦🇷;flag: Argentina;argentina",
    "🇦🇸;flag: American Samoa;american_samoa",
    "🇦🇹;flag: Austria;austria",
    "🇦🇺;flag: Australia;australia",
    "🇦🇼;flag: Aruba;aruba",
    "🇦🇽;flag: Åland Islands;aland_islands",
    "🇦🇿;flag: Azerbaijan;azerbaijan",
    "🇧🇦;flag: Bosnia & Herzegovina;bosnia_herzegovina",
    "🇧🇧;flag: Barbados;barbados",
    "🇧🇩;flag: Bangladesh;bangladesh",
    "🇧🇪;flag: Belgium;belgium",
    "🇧🇫;flag: Burkina Faso;burkina_faso",
    "🇧🇬;flag: Bulgaria;bulgaria",
    "🇧🇭;flag: Bahrain;bahrain",
    "🇧🇮;flag: Burundi;burundi",
    "🇧🇯;flag: Benin;benin",
    "🇧🇱;flag: St. Barthélemy;st_barthelemy",
    "🇧🇲;flag: Bermuda;bermuda",
    "🇧🇳;flag: Brunei;brunei",
    "🇧🇴;flag: Bolivia;bolivia",
    "🇧🇶;flag: Caribbean Netherlands;caribbean_netherlands",
    "🇧🇷;flag: Brazil;brazil",
    "🇧🇸;flag: Bahamas;bahamas",
    "🇧🇹;flag: Bhutan;bhutan",
    "🇧🇻;flag: Bouvet Island;bouvet_island",
    "🇧🇼;flag: Botswana;botswana",
    "🇧🇾;flag: Belarus;belarus",
    "🇧🇿;flag: Belize;belize",
    "🇨🇦;flag: Canada;canada",
    "🇨🇨;flag: Cocos (Keeling) Islands;cocos_islands",
    "🇨🇩;flag: Congo - Kinshasa;congo_kinshasa",
    "🇨🇫;flag: Central African Republic;central_african_republic",
    "🇨🇬;flag: Congo - Brazzaville;congo_brazzaville",
    "🇨🇭;flag: Switzerland;switzerland",
    "🇨🇮;flag: Côte d’Ivoire;cote_divoire",
    "🇨🇰;flag: Cook Islands;cook_islands",
    "🇨🇱;flag: Chile;chile",
    "🇨🇲;flag: Cameroon;cameroon",
    "🇨🇳;flag: China;cn",
    "🇨🇴;flag: Colombia;colombia",
    "🇨🇵;flag: Clipperton Island;clipperton_island",
    "🇨🇷;flag: Costa Rica;costa_rica",
    "🇨🇺;flag: Cuba;cuba",
    "🇨🇻;flag: Cape Verde;cape_verde",
    "🇨🇼;flag: Curaçao;curacao",
    "🇨🇽;flag: Christmas Island;christmas_island",
    "🇨🇾;flag: Cyprus;cyprus",
    "🇨🇿;flag: Czechia;czech_republic",
    "🇩🇪;flag: Germany;de",
    "🇩🇬;flag: Diego Garcia;diego_garcia",
    "🇩🇯;flag: Djibouti;djibouti",
    "🇩🇰;flag: Denmark;denmark",
    "🇩🇲;flag: Dominica;dominica",
    "🇩🇴;flag: Dominican Republic;dominican_republic",
    "🇩🇿;flag: Algeria;algeria",
    "🇪🇦;flag: Ceuta & Melilla;ceuta_melilla",
    "🇪🇨;flag: Ecuador;ecuador",
    "🇪🇪;flag: Estonia;estonia",
    "🇪🇬;flag: Egypt;egypt",
    "🇪🇭;flag: Western Sahara;western_sahara",
    "🇪🇷;flag: Eritrea;eritrea",
    "🇪🇸;flag: Spain;es",
    "🇪🇹;flag: Ethiopia;ethiopia",
    "🇪🇺;flag: European Union;eu,european_union",
    "🇫🇮;flag: Finland;finland",
    "🇫🇯;flag: Fiji;fiji",
    "🇫🇰;flag: Falkland Islands;falkland_islands",
    "🇫🇲;flag: Micronesia;micronesia",
    "🇫🇴;flag: Faroe Islands;faroe_islands",
    "🇫🇷;flag: France;fr",
    "🇬🇦;flag: Gabon;gabon",
    "🇬🇧;flag: United Kingdom;gb,uk",
    "🇬🇩;flag: Grenada;grenada",
    "🇬🇪;flag: Georgia;georgia",
    "🇬🇫;flag: French Guiana;french_guiana",
    "🇬🇬;flag: Guernsey;guernsey",
    "🇬🇭;flag: Ghana;ghana",
    "🇬🇮;flag: Gibraltar;gibraltar",
    "🇬🇱;flag: Greenland;greenland",
    "🇬🇲;flag: Gambia;gambia",
    "🇬🇳;flag: Guinea;guinea",
    "🇬🇵;flag: Guadeloupe;guadeloupe",
    "🇬🇶;flag: Equatorial Guinea;equatorial_guinea",
    "🇬🇷;flag: Greece;greece",
    "🇬🇸;flag: South Georgia & South Sandwich Islands;south_georgia_south_sandwich_islands",
    "🇬🇹;flag: Guatemala;guatemala",
    "🇬🇺;flag: Guam;guam",
    "🇬🇼;flag: Guinea-Bissau;guinea_bissau",
    "🇬🇾;flag: Guyana;guyana",
    "🇭🇰;flag: Hong Kong SAR China;hong_kong",
    "🇭🇲;flag: Heard & McDonald Islands;heard_mcdonald_islands",
    "🇭🇳;flag: Honduras;honduras",
    "🇭🇷;flag: Croatia;croatia",
    "🇭🇹;flag: Haiti;haiti",
    "🇭🇺;flag: Hungary;hungary",
    "🇮🇨;flag: Canary Islands;canary_islands",
    "🇮🇩;flag: Indonesia;indonesia",
    "🇮🇪;flag: Ireland;ireland",
    "🇮🇱;flag: Israel;israel",
    "🇮🇲;flag: Isle of Man;isle_of_man",
    "🇮🇳;flag: India;india",
    "🇮🇴;flag: British Indian Ocean Territory;british_indian_ocean_territory",
    "🇮🇶;flag: Iraq;iraq",
    "🇮🇷;flag: Iran;iran",
    "🇮🇸;flag: Iceland;iceland",
    "🇮🇹;flag: Italy;it",
    "🇯🇪;flag: Jersey;jersey",
    "🇯🇲;flag: Jamaica;jamaica",
    "🇯🇴;flag: Jordan;jordan",
    "🇯🇵;flag: Japan;jp",
    "🇰🇪;flag: Kenya;kenya",
    "🇰🇬;flag: Kyrgyzstan;kyrgyzstan",
    "🇰🇭;flag: Cambodia;cambodia",
    "🇰🇮;flag: Kiribati;kiribati",
    "🇰🇲;flag: Comoros;comoros",
    "🇰🇳;flag: St. Kitts & Nevis;st_kitts_nevis",
    "🇰🇵;flag: North Korea;north_korea",
    "🇰🇷;flag: South Korea;kr",
    "🇰🇼;flag: Kuwait;kuwait",
    "🇰🇾;flag: Cayman Islands;cayman_islands",
    "🇰🇿;flag: Kazakhstan;kazakhstan",
    "🇱🇦;flag: Laos;laos",
    "🇱🇧;flag: Lebanon;lebanon",
    "🇱🇨;flag: St. Lucia;st_lucia",
    "🇱🇮;flag: Liechtenstein;liechtenstein",
    "🇱🇰;flag: Sri Lanka;sri_lanka",
    "🇱🇷;flag: Liberia;liberia",
    "🇱🇸;flag: Lesotho;lesotho",
    "🇱🇹;flag: Lithuania;lithuania",
    "🇱🇺;flag: Luxembourg;luxembourg",
    "🇱🇻;flag: Latvia;latvia",
    "🇱🇾;flag: Libya;libya",
    "🇲🇦;flag: Morocco;morocco",
    "🇲🇨;flag: Monaco;monaco",
    "🇲🇩;flag: Moldova;moldova",
    "🇲🇪;flag: Montenegro;montenegro",
    "🇲🇫;flag: St. Martin;st_martin",
    "🇲🇬;flag: Madagascar;madagascar",
    "🇲🇭;flag: Marshall Islands;marshall_islands",
    "🇲🇰;flag: North Macedonia;macedonia",
    "🇲🇱;flag: Mali;mali",
    "🇲🇲;flag: Myanmar (Burma);myanmar",
    "🇲🇳;flag: Mongolia;mongolia",
    "🇲🇴;flag: Macao SAR China;macau",
    "🇲🇵;flag: Northern Mariana Islands;northern_mariana_islands",
    "🇲🇶;flag: Martinique;martinique",
    "🇲🇷;flag: Mauritania;mauritania",
    "🇲🇸;flag: Montserrat;montserrat",
    "🇲🇹;flag: Malta;malta",
    "🇲🇺;flag: Mauritius;mauritius",
    "🇲🇻;flag: Maldives;maldives",
    "🇲🇼;flag: Malawi;malawi",
    "🇲🇽;flag: Mexico;mexico",
    "🇲🇾;flag: Malaysia;malaysia",
    "🇲🇿;flag: Mozambique;mozambique",
    "🇳🇦;flag: Namibia;namibia",
    "🇳🇨;flag: New Caledonia;new_caledonia",
    "🇳🇪;flag: Niger;niger",
    "🇳🇫;flag: Norfolk Island;norfolk_island",
    "🇳🇬;flag: Nigeria;nigeria",
    "🇳🇮;flag: Nicaragua;nicaragua",
    "🇳🇱;flag: Netherlands;netherlands",
    "🇳🇴;flag: Norway;norway",
    "🇳🇵;flag: Nepal;nepal",
    "🇳🇷;flag: Nauru;nauru",
    "🇳🇺;flag: Niue;niue",
    "🇳🇿;flag: New Zealand;new_zealand",
    "🇴🇲;flag: Oman;oman",
    "🇵🇦;flag: Panama;panama",
    "🇵🇪;flag: Peru;peru",
    "🇵🇫;flag: French Polynesia;french_polynesia",
    "🇵🇬;flag: Papua New Guinea;papua_new_guinea",
    "🇵🇭;flag: Philippines;philippines",
    "🇵🇰;flag: Pakistan;pakistan",
    "🇵🇱;flag: Poland;poland",
    "🇵🇲;flag: St. Pierre & Miquelon;st_pierre_miquelon",
    "🇵🇳;flag: Pitcairn Islands;pitcairn_islands",
    "🇵🇷;flag: Puerto Rico;puerto_rico",
    "🇵🇸;flag: Palestinian Territories;palestinian_territories",
    "🇵🇹;flag: Portugal;portugal",
    "🇵🇼;flag: Palau;palau",
    "🇵🇾;flag: Paraguay;paraguay",
    "🇶🇦;flag: Qatar;qatar",
    "🇷🇪;flag: Réunion;reunion",
    "🇷🇴;flag: Romania;romania",
    "🇷🇸;flag: Serbia;serbia",
    "🇷🇺;flag: Russia;ru",
    "🇷🇼;flag: Rwanda;rwanda",
    "🇸🇦;flag: Saudi Arabia;saudi_arabia",
    "🇸🇧;flag: Solomon Islands;solomon_islands",
    "🇸🇨;flag: Seychelles;seychelles",
    "🇸🇩;flag: Sudan;sudan",
    "🇸🇪;flag: Sweden;sweden",
    "🇸🇬;flag: Singapore;singapore",
    "🇸🇭;flag: St. Helena;st_helena",
    "🇸🇮;flag: Slovenia;slovenia",
    "🇸🇯;flag: Svalbard & Jan Mayen;svalbard_jan_mayen",
    "🇸🇰;flag: Slovakia;slovakia",
    "🇸🇱;flag: Sierra Leone;sierra_leone",
    "🇸🇲;flag: San Marino;san_marino",
    "🇸🇳;flag: Senegal;senegal",
    "🇸🇴;flag: Somalia;somalia",
    "🇸🇷;flag: Suriname;suriname",
    "🇸🇸;flag: South Sudan;south_sudan",
    "🇸🇹;flag: São Tomé & Príncipe;sao_tome_principe",
    "🇸🇻;flag: El Salvador;el_salvador",
    "🇸🇽;flag: Sint Maarten;sint_maarten",
    "🇸🇾;flag: Syria;syria",
    "🇸🇿;flag: Eswatini;swaziland",
    "🇹🇦;flag: Tristan da Cunha;tristan_da_cunha",
    "🇹🇨;flag: Turks & Caicos Islands;turks_caicos_islands",
    "🇹🇩;flag: Chad;chad",
    "🇹🇫;flag: French Southern Territories;french_southern_territories",
    "🇹🇬;flag: Togo;togo",
    "🇹🇭;flag: Thailand;thailand",
    "🇹🇯;flag: Tajikistan;tajikistan",
    "🇹🇰;flag: Tokelau;tokelau",
    "🇹🇱;flag: Timor-Leste;timor_leste",
    "🇹🇲;flag: Turkmenistan;turkmenistan",
    "🇹🇳;flag: Tunisia;tunisia",
    "🇹🇴;flag: Tonga;tonga",
    "🇹🇷;flag: Türkiye;tr",
    "🇹🇹;flag: Trinidad & Tobago;trinidad_tobago",
    "🇹🇻;flag: Tuvalu;tuvalu",
    "🇹🇼;flag: Taiwan;taiwan",
    "🇹🇿;flag: Tanzania;tanzania",
    "🇺🇦;flag: Ukraine;ukraine",
    "🇺🇬;flag: Uganda;uganda",
    "🇺🇲;flag: U.S. Outlying Islands;us_outlying_islands",
    "🇺🇳;flag: United Nations;united_nations",
    "🇺🇸;flag: United States;us",
    "🇺🇾;flag: Uruguay;uruguay",
    "🇺🇿;flag: Uzbekistan;uzbekistan",
    "🇻🇦;flag: Vatican City;vatican_city",
    "🇻🇨;flag: St. Vincent & Grenadines;st_vincent_grenadines",
    "🇻🇪;flag: Venezuela;venezuela",
    "🇻🇬;flag: British Virgin Islands;british_virgin_islands",
    "🇻🇮;flag: U.S. Virgin Islands;us_virgin_islands",
    "🇻🇳;flag: Vietnam;vietnam",
    "🇻🇺;flag: Vanuatu;vanuatu",
    "🇼🇫;flag: Wallis & Futuna;wallis_futuna",
    "🇼🇸;flag: Samoa;samoa",
    "🇽🇰;flag: Kosovo;kosovo",
    "🇾🇪;flag: Yemen;yemen",
    "🇾🇹;flag: Mayotte;mayotte",
    "🇿🇦;flag: South Africa;south_africa",
    "🇿🇲;flag: Zambia;zambia",
    "🇿🇼;flag: Zimbabwe;zimbabwe",
    "🏴󠁧󠁢󠁥󠁮󠁧󠁿;flag: England;england",
    "🏴󠁧󠁢󠁳󠁣󠁴󠁿;flag: Scotland;scotland",
    "🏴󠁧󠁢󠁷󠁬󠁳󠁿;flag: Wales;wales",
    "+🧑‍⚕️;health worker;health_worker",
    "+🧑‍🎓;student;student",
    "+🧑‍🏫;teacher;teacher",
    "+🧑‍⚖️;judge;judge",
    "+🧑‍🌾;farmer;farmer",
    "+🧑‍🍳;cook;cook",
    "+🧑‍🔧;mechanic;mechanic",
    "+🧑‍🏭;factory worker;factory_worker",
    "+🧑‍💼;office worker;office_worker",
    "+🧑‍🔬;scientist;scientist",
    "+🧑‍💻;technologist;technologist",
    "+🧑‍🎤;singer;singer",
    "+🧑‍🎨;artist;artist",
    "+🧑‍✈️;pilot;pilot",
    "+🧑‍🚀;astronaut;astronaut",
    "+🧑‍🚒;firefighter;firefighter",
    "+🧑‍🦰;person: red hair;person_red_hair",
    "+🧑‍🦱;person: curly hair;person_curly_hair",
    "+🧑‍🦳;person: white hair;person_white_hair",
    "+🧑‍🦲;person: bald;person_bald",
    "+🧑‍🍼;person feeding baby;person_feeding_baby",
    "+🧑‍🦯;person with white cane;person_with_probing_cane",
    "+🧑‍🦯‍➡️;person with white cane facing right",
    "+🧑‍🦼;person in motorized wheelchair;person_in_motorized_wheelchair",
    "+🧑‍🦼‍➡️;person in motorized wheelchair facing right",
    "+🧑‍🦽;person in manual wheelchair;person_in_manual_wheelchair",
    "+🧑‍🦽‍➡️;person in manual wheelchair facing right",
    "+👨‍⚕️;man health worker;man_health_worker",
    "+👨‍🎓;man student;man_student",
    "+👨‍🏫;man teacher;man_teacher",
    "+👨‍⚖️;man judge;man_judge",
    "+👨‍🌾;man farmer;man_farmer",
    "+👨‍🍳;man cook;man_cook",
    "+👨‍🔧;man mechanic;man_mechanic",
    "+👨‍🏭;man factory worker;man_factory_worker",
    "+👨‍💼;man office worker;man_office_worker",
    "+👨‍🔬;man scientist;man_scientist",
    "+👨‍💻;man technologist;man_technologist",
    "+👨‍🎤;man singer;man_singer",
    "+👨‍🎨;man artist;man_artist",
    "+👨‍✈️;man pilot;man_pilot",
    "+👨‍🚀;man astronaut;man_astronaut",
    "+👨‍🚒;man firefighter;man_firefighter",
    "+👨‍🦰;man: red hair;red_haired_man",
    "+👨‍🦱;man: curly hair;curly_haired_man",
    "+👨‍🦳;man: white hair;white_haired_man",
    "+👨‍🦲;man: bald;bald_man",
    "+👨‍🍼;man feeding baby;man_feeding_baby",
    "+👨‍🦯;man with white cane;man_with_probing_cane",
    "+👨‍🦯‍➡️;man with white cane facing right",
    "+👨‍🦼;man in motorized wheelchair;man_in_motorized_wheelchair",
    "+👨‍🦼‍➡️;man in motorized wheelchair facing right",
    "+👨‍🦽;man in manual wheelchair;man_in_manual_wheelchair",
    "+👨‍🦽‍➡️;man in manual wheelchair facing right",
    "+👩‍⚕️;woman health worker;woman_health_worker",
    "+👩‍🎓;woman student;woman_student",
    "+👩‍🏫;woman teacher;woman_teacher",
    "+👩‍⚖️;woman judge;woman_judge",
    "+👩‍🌾;woman farmer;woman_farmer",
    "+👩‍🍳;woman cook;woman_cook",
    "+👩‍🔧;woman mechanic;woman_mechanic",
    "+👩‍🏭;woman factory worker;woman_factory_worker",
    "+👩‍💼;woman office worker;woman_office_worker",
    "+👩‍🔬;woman scientist;woman_scientist",
    "+👩‍💻;woman technologist;woman_technologist",
    "+👩‍🎤;woman singer;woman_singer",
    "+👩‍🎨;woman artist;woman_artist",
    "+👩‍✈️;woman pilot;woman_pilot",
    "+👩‍🚀;woman astronaut;woman_astronaut",
    "+👩‍🚒;woman firefighter;woman_firefighter",
    "+👩‍🦰;woman: red hair;red_haired_woman",
    "+👩‍🦱;woman: curly hair;curly_haired_woman",
    "+👩‍🦳;woman: white hair;white_haired_woman",
    "+👩‍🦲;woman: bald;bald_woman",
    "+👩‍🍼;woman feeding baby;woman_feeding_baby",
    "+👩‍🦯;woman with white cane;woman_with_probing_cane",
    "+👩‍🦯‍➡️;woman with white cane facing right",
    "+👩‍🦼;woman in motorized wheelchair;woman_in_motorized_wheelchair",
    "+👩‍🦼‍➡️;woman in motorized wheelchair facing right",
    "+👩‍🦽;woman in manual wheelchair;woman_in_manual_wheelchair",
    "+👩‍🦽‍➡️;woman in manual wheelchair facing right",
    "+🧑‍🎄;mx claus;mx_claus",
    "+👮‍♂️;man police officer;policeman",
    "+👮‍♀️;woman police officer;policewoman",
    "+🕵️‍♂️;man detective;male_detective",
    "+🕵️‍♀️;woman detective;female_detective",
    "+💂‍♂️;man guard;guardsman",
    "+💂‍♀️;woman guard;guardswoman",
    "+👷‍♂️;man construction worker;construction_worker_man",
    "+👷‍♀️;woman construction worker;construction_worker_woman",
    "+👳‍♂️;man wearing turban;man_with_turban",
    "+👳‍♀️;woman wearing turban;woman_with_turban",
    "+🤵‍♂️;man in tuxedo;man_in_tuxedo",
    "+🤵‍♀️;woman in tuxedo;woman_in_tuxedo",
    "+👰‍♂️;man with veil;man_with_veil",
    "+👰‍♀️;woman with veil;woman_with_veil,bride_with_veil",
    "+🦸‍♂️;man superhero;superhero_man",
    "+🦸‍♀️;woman superhero;superhero_woman",
    "+🦹‍♂️;man supervillain;supervillain_man",
    "+🦹‍♀️;woman supervillain;supervillain_woman",
    "+🧙‍♂️;man mage;mage_man",
    "+🧙‍♀️;woman mage;mage_woman",
    "+🧚‍♂️;man fairy;fairy_man",
    "+🧚‍♀️;woman fairy;fairy_woman",
    "+🧛‍♂️;man vampire;vampire_man",
    "+🧛‍♀️;woman vampire;vampire_woman",
    "+🧝‍♂️;man elf;elf_man",
    "+🧝‍♀️;woman elf;elf_woman",
    "🧞‍♂️;man genie;genie_man",
    "🧞‍♀️;woman genie;genie_woman",
    "🧟‍♂️;man zombie;zombie_man",
    "🧟‍♀️;woman zombie;zombie_woman",
    "+🧜‍♂️;merman;merman",
    "+🧜‍♀️;mermaid;mermaid",
    "+💆‍♂️;man getting massage;massage_man",
    "+💆‍♀️;woman getting massage;massage_woman",
    "+💇‍♂️;man getting haircut;haircut_man",
    "+💇‍♀️;woman getting haircut;haircut_woman",
    "+🚶‍♂️;man walking;walking_man",
    "+🚶‍♀️;woman walking;walking_woman",
    "+🧍‍♂️;man standing;standing_man",
    "+🧍‍♀️;woman standing;standing_woman",
    "+🧎‍♂️;man kneeling;kneeling_man",
    "+🧎‍♀️;woman kneeling;kneeling_woman",
    "+🏃‍♂️;man running;running_man",
    "+🏃‍♀️;woman running;running_woman",
    "+🧖‍♂️;man in steamy room;sauna_man",
    "+🧖‍♀️;woman in steamy room;sauna_woman",
    "+🧗‍♂️;man climbing;climbing_man",
    "+🧗‍♀️;woman climbing;climbing_woman",
    "+🏌️‍♂️;man golfing;golfing_man",
    "+🏌️‍♀️;woman golfing;golfing_woman",
    "+🏄‍♂️;man surfing;surfing_man",
    "+🏄‍♀️;woman surfing;surfing_woman",
    "+🚣‍♂️;man rowing boat;rowing_man",
    "+🚣‍♀️;woman rowing boat;rowing_woman",
    "+🏊‍♂️;man swimming;swimming_man",
    "+🏊‍♀️;woman swimming;swimming_woman",
    "+⛹️‍♂️;man bouncing ball;bouncing_ball_man,basketball_man",
    "+⛹️‍♀️;woman bouncing ball;bouncing_ball_woman,basketball_woman",
    "+🏋️‍♂️;man lifting weights;weight_lifting_man",
    "+🏋️‍♀️;woman lifting weights;weight_lifting_woman",
    "+🚴‍♂️;man biking;biking_man",
    "+🚴‍♀️;woman biking;biking_woman",
    "+🚵‍♂️;man mountain biking;mountain_biking_man",
    "+🚵‍♀️;woman mountain biking;mountain_biking_woman",
    "+🤸‍♂️;man cartwheeling;man_cartwheeling",
    "+🤸‍♀️;woman cartwheeling;woman_cartwheeling",
    "+🤽‍♂️;man playing water polo;man_playing_water_polo",
    "+🤽‍♀️;woman playing water polo;woman_playing_water_polo",
    "+🤾‍♂️;man playing handball;man_playing_handball",
    "+🤾‍♀️;woman playing handball;woman_playing_handball",
    "+🤹‍♂️;man juggling;man_juggling",
    "+🤹‍♀️;woman juggling;woman_juggling",
    "+🧘‍♂️;man in lotus position;lotus_position_man",
    "+🧘‍♀️;woman in lotus position;lotus_position_woman",
    "+🙍‍♂️;man frowning;frowning_man",
    "+🙍‍♀️;woman frowning;frowning_woman",
    "+🙎‍♂️;man pouting;pouting_man",
    "+🙎‍♀️;woman pouting;pouting_woman",
    "+🙅‍♂️;man gesturing NO;no_good_man,ng_man",
    "+🙅‍♀️;woman gesturing NO;no_good_woman,ng_woman",
    "+🙆‍♂️;man gesturing OK;ok_man",
    "+🙆‍♀️;woman gesturing OK;ok_woman",
    "+💁‍♂️;man tipping hand;tipping_hand_man,sassy_man",
    "+💁‍♀️;woman tipping hand;tipping_hand_woman,sassy_woman",
    "+🙋‍♂️;man raising hand;raising_hand_man",
    "+🙋‍♀️;woman raising hand;raising_hand_woman",
    "+🙇‍♂️;man bowing;bowing_man",
    "+🙇‍♀️;woman bowing;bowing_woman",
    "+🤦‍♂️;man facepalming;man_facepalming",
    "+🤦‍♀️;woman facepalming;woman_facepalming",
    "+🤷‍♂️;man shrugging;man_shrugging",
    "+🤷‍♀️;woman shrugging;woman_shrugging",
    "+🧏‍♂️;deaf man;deaf_man",
    "+🧏‍♀️;deaf woman;deaf_woman",
    "👯‍♂️;men with bunny ears;dancing_men",
    "👯‍♀️;women with bunny ears;dancing_women",
    "🤼‍♂️;men wrestling;men_wrestling",
    "🤼‍♀️;women wrestling;women_wrestling",
    "+👱‍♂️;man: blond hair;blond_haired_man",
    "+👱‍♀️;woman: blond hair;blond_haired_woman,blonde_woman",
    "+🧔‍♂️;man: beard;man_beard",
    "+🧔‍♀️;woman: beard;woman_beard",
    "+🚶‍➡️;person walking facing right",
    "+🚶‍♂️‍➡️;man walking facing right",
    "+🚶‍♀️‍➡️;woman walking facing right",
    "+🧎‍➡️;person kneeling facing right",
    "+🧎‍♂️‍➡️;man kneeling facing right",
    "+🧎‍♀️‍➡️;woman kneeling facing right",
    "+🏃‍➡️;person running facing right",
    "+🏃‍♂️‍➡️;man running facing right",
    "+🏃‍♀️‍➡️;woman running facing right",
    "👨‍👦;family: man, boy;family_man_boy",
    "👨‍👧;family: man, girl;family_man_girl",
    "👩‍👦;family: woman, boy;family_woman_boy",
    "👩‍👧;family: woman, girl;family_woman_girl",
    "🧑‍🧒;family: adult, child",
    "👨‍👦‍👦;family: man, boy, boy;family_man_boy_boy",
    "👨‍👧‍👦;family: man, girl, boy;family_man_girl_boy",
    "👨‍👧‍👧;family: man, girl, girl;family_man_girl_girl",
    "👩‍👦‍👦;family: woman, boy, boy;family_woman_boy_boy",
    "👩‍👧‍👦;family: woman, girl, boy;family_woman_girl_boy",
    "👩‍👧‍👧;family: woman, girl, girl;family_woman_girl_girl",
    "🧑‍🧒‍🧒;family: adult, child, child",
    "👨‍👨‍👧;family: man, man, girl;family_man_man_girl",
    "👨‍👨‍👧‍👧;family: man, man, girl, girl;family_man_man_girl_girl",
    "👨‍👨‍👧‍👦;family: man, man, girl, boy;family_man_man_girl_boy",
    "👨‍👨‍👦;family: man, man, boy;family_man_man_boy",
    "👨‍👨‍👦‍👦;family: man, man, boy, boy;family_man_man_boy_boy",
    "👨‍👩‍👧;family: man, woman, girl;family_man_woman_girl",
    "👨‍👩‍👧‍👧;family: man, woman, girl, girl;family_man_woman_girl_girl",
    "👨‍👩‍👧‍👦;family: man, woman, girl, boy;family_man_woman_girl_boy",
    "👨‍👩‍👦;family: man, woman, boy;family_man_woman_boy",
    "👨‍👩‍👦‍👦;family: man, woman, boy, boy;family_man_woman_boy_boy",
    "👩‍👩‍👧;family: woman, woman, girl;family_woman_woman_girl",
    "👩‍👩‍👧‍👧;family: woman, woman, girl, girl;family_woman_woman_girl_girl",
    "👩‍👩‍👧‍👦;family: woman, woman, girl, boy;family_woman_woman_girl_boy",
    "👩‍👩‍👦;family: woman, woman, boy;family_woman_woman_boy",
    "👩‍👩‍👦‍👦;family: woman, woman, boy, boy;family_woman_woman_boy_boy",
    "🧑‍🧑‍🧒;family: adult, adult, child",
    "🧑‍🧑‍🧒‍🧒;family: adult, adult, child, child",
    "👨‍❤️‍👨;couple with heart: man, man;couple_with_heart_man_man",
    "👩‍❤️‍👨;couple with heart: woman, man;couple_with_heart_woman_man",
    "👩‍❤️‍👩;couple with heart: woman, woman;couple_with_heart_woman_woman",
    "👨‍❤️‍💋‍👨;kiss: man, man;couplekiss_man_man",
    "👩‍❤️‍💋‍👨;kiss: woman, man;couplekiss_man_woman",
    "👩‍❤️‍💋‍👩;kiss: woman, woman;couplekiss_woman_woman",
    "🧑‍🤝‍🧑;people holding hands;people_holding_hands",
    "😶‍🌫️;face in clouds;face_in_clouds",
    "😮‍💨;face exhaling;face_exhaling",
    "😵‍💫;face with spiral eyes;face_with_spiral_eyes",
    "❤️‍🔥;heart on fire;heart_on_fire",
    "❤️‍🩹;mending heart;mending_heart",
    "👁️‍🗨️;eye in speech bubble;eye_speech_bubble",
    "🐕‍🦺;service dog;service_dog",
    "🐈‍⬛;black cat;black_cat",
    "🐻‍❄️;polar bear;polar_bear",
    "🐦‍⬛;black bird;black_bird",
    "🏳️‍🌈;rainbow flag;rainbow_flag",
    "🏳️‍⚧️;transgender flag;transgender_flag",
    "🏴‍☠️;pirate flag;pirate_flag",
    "🙂‍↔️;head shaking horizontally",
    "🙂‍↕️;head shaking vertically",
    "🐦‍🔥;phoenix",
    "🍋‍🟩;lime",
    "🍄‍🟫;brown mushroom",
    "⛓️‍💥;broken chain",
    "👨🏻‍❤️‍👨🏻;couple with heart: man, man, light skin tone",
    "👨🏻‍❤️‍💋‍👨🏻;kiss: man, man, light skin tone",
    "👨🏻‍❤️‍👨🏼;couple with heart: man, man, light skin tone, medium-light skin tone",
    "👨🏻‍❤️‍💋‍👨🏼;kiss: man, man, light skin tone, medium-light skin tone",
    "👨🏻‍🤝‍👨🏼;men holding hands: light skin tone, medium-light skin tone",
    "👨🏻‍❤️‍👨🏽;couple with heart: man, man, light skin tone, medium skin tone",
    "👨🏻‍❤️‍💋‍👨🏽;kiss: man, man, light skin tone, medium skin tone",
    "👨🏻‍🤝‍👨🏽;men holding hands: light skin tone, medium skin tone",
    "👨🏻‍❤️‍👨🏾;couple with heart: man, man, light skin tone, medium-dark skin tone",
    "👨🏻‍❤️‍💋‍👨🏾;kiss: man, man, light skin tone, medium-dark skin tone",
    "👨🏻‍🤝‍👨🏾;men holding hands: light skin tone, medium-dark skin tone",
    "👨🏻‍❤️‍👨🏿;couple with heart: man, man, light skin tone, dark skin tone",
    "👨🏻‍❤️‍💋‍👨🏿;kiss: man, man, light skin tone, dark skin tone",
    "👨🏻‍🤝‍👨🏿;men holding hands: light skin tone, dark skin tone",
    "👨🏼‍❤️‍👨🏻;couple with heart: man, man, medium-light skin tone, light skin tone",
    "👨🏼‍❤️‍💋‍👨🏻;kiss: man, man, medium-light skin tone, light skin tone",
    "👨🏼‍🤝‍👨🏻;men holding hands: medium-light skin tone, light skin tone",
    "👨🏼‍❤️‍👨🏼;couple with heart: man, man, medium-light skin tone",
    "👨🏼‍❤️‍💋‍👨🏼;kiss: man, man, medium-light skin tone",
    "👨🏼‍❤️‍👨🏽;couple with heart: man, man, medium-light skin tone, medium skin tone",
    "👨🏼‍❤️‍💋‍👨🏽;kiss: man, man, medium-light skin tone, medium skin tone",
    "👨🏼‍🤝‍👨🏽;men holding hands: medium-light skin tone, medium skin tone",
    "👨🏼‍❤️‍👨🏾;couple with heart: man, man, medium-light skin tone, medium-dark skin tone",
    "👨🏼‍❤️‍💋‍👨🏾;kiss: man, man, medium-light skin tone, medium-dark skin tone",
    "👨🏼‍🤝‍👨🏾;men holding hands: medium-light skin tone, medium-dark skin tone",
    "👨🏼‍❤️‍👨🏿;couple with heart: man, man, medium-light skin tone, dark skin tone",
    "👨🏼‍❤️‍💋‍👨🏿;kiss: man, man, medium-light skin tone, dark skin tone",
    "👨🏼‍🤝‍👨🏿;men holding hands: medium-light skin tone, dark skin tone",
    "👨🏽‍❤️‍👨🏻;couple with heart: man, man, medium skin tone, light skin tone",
    "👨🏽‍❤️‍💋‍👨🏻;kiss: man, man, medium skin tone, light skin tone",
    "👨🏽‍🤝‍👨🏻;men holding hands: medium skin tone, light skin tone",
    "👨🏽‍❤️‍👨🏼;couple with heart: man, man, medium skin tone, medium-light skin tone",
    "👨🏽‍❤️‍💋‍👨🏼;kiss: man, man, medium skin tone, medium-light skin tone",
    "👨🏽‍🤝‍👨🏼;men holding hands: medium skin tone, medium-light skin tone",
    "👨🏽‍❤️‍👨🏽;couple with heart: man, man, medium skin tone",
    "👨🏽‍❤️‍💋‍👨🏽;kiss: man, man, medium skin tone",
    "👨🏽‍❤️‍👨🏾;couple with heart: man, man, medium skin tone, medium-dark skin tone",
    "👨🏽‍❤️‍💋‍👨🏾;kiss: man, man, medium skin tone, medium-dark skin tone",
    "👨🏽‍🤝‍👨🏾;men holding hands: medium skin tone, medium-dark skin tone",
    "👨🏽‍❤️‍👨🏿;couple with heart: man, man, medium skin tone, dark skin tone",
    "👨🏽‍❤️‍💋‍👨🏿;kiss: man, man, medium skin tone, dark skin tone",
    "👨🏽‍🤝‍👨🏿;men holding hands: medium skin tone, dark skin tone",
    "👨🏾‍❤️‍👨🏻;couple with heart: man, man, medium-dark skin tone, light skin tone",
    "👨🏾‍❤️‍💋‍👨🏻;kiss: man, man, medium-dark skin tone, light skin tone",
    "👨🏾‍🤝‍👨🏻;men holding hands: medium-dark skin tone, light skin tone",
    "👨🏾‍❤️‍👨🏼;couple with heart: man, man, medium-dark skin tone, medium-light skin tone",
    "👨🏾‍❤️‍💋‍👨🏼;kiss: man, man, medium-dark skin tone, medium-light skin tone",
    "👨🏾‍🤝‍👨🏼;men holding hands: medium-dark skin tone, medium-light skin tone",
    "👨🏾‍❤️‍👨🏽;couple with heart: man, man, medium-dark skin tone, medium skin tone",
    "👨🏾‍❤️‍💋‍👨🏽;kiss: man, man, medium-dark skin tone, medium skin tone",
    "👨🏾‍🤝‍👨🏽;men holding hands: medium-dark skin tone, medium skin tone",
    "👨🏾‍❤️‍👨🏾;couple with heart: man, man, medium-dark skin tone",
    "👨🏾‍❤️‍💋‍👨🏾;kiss: man, man, medium-dark skin tone",
    "👨🏾‍❤️‍👨🏿;couple with heart: man, man, medium-dark skin tone, dark skin tone",
    "👨🏾‍❤️‍💋‍👨🏿;kiss: man, man, medium-dark skin tone, dark skin tone",
    "👨🏾‍🤝‍👨🏿;men holding hands: medium-dark skin tone, dark skin tone",
    "👨🏿‍❤️‍👨🏻;couple with heart: man, man, dark skin tone, light skin tone",
    "👨🏿‍❤️‍💋‍👨🏻;kiss: man, man, dark skin tone, light skin tone",
    "👨🏿‍🤝‍👨🏻;men holding hands: dark skin tone, light skin tone",
    "👨🏿‍❤️‍👨🏼;couple with heart: man, man, dark skin tone, medium-light skin tone",
    "👨🏿‍❤️‍💋‍👨🏼;kiss: man, man, dark skin tone, medium-light skin tone",
    "👨🏿‍🤝‍👨🏼;men holding hands: dark skin tone, medium-light skin tone",
    "👨🏿‍❤️‍👨🏽;couple with heart: man, man, dark skin tone, medium skin tone",
    "👨🏿‍❤️‍💋‍👨🏽;kiss: man, man, dark skin tone, medium skin tone",
    "👨🏿‍🤝‍👨🏽;men holding hands: dark skin tone, medium skin tone",
    "👨🏿‍❤️‍👨🏾;couple with heart: man, man, dark skin tone, medium-dark skin tone",
    "👨🏿‍❤️‍💋‍👨🏾;kiss: man, man, dark skin tone, medium-dark skin tone",
    "👨🏿‍🤝‍👨🏾;men holding hands: dark skin tone, medium-dark skin tone",
    "👨🏿‍❤️‍👨🏿;couple with heart: man, man, dark skin tone",
    "👨🏿‍❤️‍💋‍👨🏿;kiss: man, man, dark skin tone",
    "👩🏻‍❤️‍👨🏻;couple with heart: woman, man, light skin tone",
    "👩🏻‍❤️‍💋‍👨🏻;kiss: woman, man, light skin tone",
    "👩🏻‍❤️‍👨🏼;couple with heart: woman, man, light skin tone, medium-light skin tone",
    "👩🏻‍❤️‍💋‍👨🏼;kiss: woman, man, light skin tone, medium-light skin tone",
    "👩🏻‍🤝‍👨🏼;woman and man holding hands: light skin tone, medium-light skin tone",
    "👩🏻‍❤️‍👨🏽;couple with heart: woman, man, light skin tone, medium skin tone",
    "👩🏻‍❤️‍💋‍👨🏽;kiss: woman, man, light skin tone, medium skin tone",
    "👩🏻‍🤝‍👨🏽;woman and man holding hands: light skin tone, medium skin tone",
    "👩🏻‍❤️‍👨🏾;couple with heart: woman, man, light skin tone, medium-dark skin tone",
    "👩🏻‍❤️‍💋‍👨🏾;kiss: woman, man, light skin tone, medium-dark skin tone",
    "👩🏻‍🤝‍👨🏾;woman and man holding hands: light skin tone, medium-dark skin tone",
    "👩🏻‍❤️‍👨🏿;couple with heart: woman, man, light skin tone, dark skin tone",
    "👩🏻‍❤️‍💋‍👨🏿;kiss: woman, man, light skin tone, dark skin tone",
    "👩🏻‍🤝‍👨🏿;woman and man holding hands: light skin tone, dark skin tone",
    "👩🏼‍❤️‍👨🏻;couple with heart: woman, man, medium-light skin tone, light skin tone",
    "👩🏼‍❤️‍💋‍👨🏻;kiss: woman, man, medium-light skin tone, light skin tone",
    "👩🏼‍🤝‍👨🏻;woman and man holding hands: medium-light skin tone, light skin tone",
    "👩🏼‍❤️‍👨🏼;couple with heart: woman, man, medium-light skin tone",
    "👩🏼‍❤️‍💋‍👨🏼;kiss: woman, man, medium-light skin tone",
    "👩🏼‍❤️‍👨🏽;couple with heart: woman, man, medium-light skin tone, medium skin tone",
    "👩🏼‍❤️‍💋‍👨🏽;kiss: woman, man, medium-light skin tone, medium skin tone",
    "👩🏼‍🤝‍👨🏽;woman and man holding hands: medium-light skin tone, medium skin tone",
    "👩🏼‍❤️‍👨🏾;couple with heart: woman, man, medium-light skin tone, medium-dark skin tone",
    "👩🏼‍❤️‍💋‍👨🏾;kiss: woman, man, medium-light skin tone, medium-dark skin tone",
    "👩🏼‍🤝‍👨🏾;woman and man holding hands: medium-light skin tone, medium-dark skin tone",
    "👩🏼‍❤️‍👨🏿;couple with heart: woman, man, medium-light skin tone, dark skin tone",
    "👩🏼‍❤️‍💋‍👨🏿;kiss: woman, man, medium-light skin tone, dark skin tone",
    "👩🏼‍🤝‍👨🏿;woman and man holding hands: medium-light skin tone, dark skin tone",
    "👩🏽‍❤️‍👨🏻;couple with heart: woman, man, medium skin tone, light skin tone",
    "👩🏽‍❤️‍💋‍👨🏻;kiss: woman, man, medium skin tone, light skin tone",
    "👩🏽‍🤝‍👨🏻;woman and man holding hands: medium skin tone, light skin tone",
    "👩🏽‍❤️‍👨🏼;couple with heart: woman, man, medium skin tone, medium-light skin tone",
    "👩🏽‍❤️‍💋‍👨🏼;kiss: woman, man, medium skin tone, medium-light skin tone",
    "👩🏽‍🤝‍👨🏼;woman and man holding hands: medium skin tone, medium-light skin tone",
    "👩🏽‍❤️‍👨🏽;couple with heart: woman, man, medium skin tone",
    "👩🏽‍❤️‍💋‍👨🏽;kiss: woman, man, medium skin tone",
    "👩🏽‍❤️‍👨🏾;couple with heart: woman, man, medium skin tone, medium-dark skin tone",
    "👩🏽‍❤️‍💋‍👨🏾;kiss: woman, man, medium skin tone, medium-dark skin tone",
    "👩🏽‍🤝‍👨🏾;woman and man holding hands: medium skin tone, medium-dark skin tone",
    "👩🏽‍❤️‍👨🏿;couple with heart: woman, man, medium skin tone, dark skin tone",
    "👩🏽‍❤️‍💋‍👨🏿;kiss: woman, man, medium skin tone, dark skin tone",
    "👩🏽‍🤝‍👨🏿;woman and man holding hands: medium skin tone, dark skin tone",
    "👩🏾‍❤️‍👨🏻;couple with heart: woman, man, medium-dark skin tone, light skin tone",
    "👩🏾‍❤️‍💋‍👨🏻;kiss: woman, man, medium-dark skin tone, light skin tone",
    "👩🏾‍🤝‍👨🏻;woman and man holding hands: medium-dark skin tone, light skin tone",
    "👩🏾‍❤️‍👨🏼;couple with heart: woman, man, medium-dark skin tone, medium-light skin tone",
    "👩🏾‍❤️‍💋‍👨🏼;kiss: woman, man, medium-dark skin tone, medium-light skin tone",
    "👩🏾‍🤝‍👨🏼;woman and man holding hands: medium-dark skin tone, medium-light skin tone",
    "👩🏾‍❤️‍👨🏽;couple with heart: woman, man, medium-dark skin tone, medium skin tone",
    "👩🏾‍❤️‍💋‍👨🏽;kiss: woman, man, medium-dark skin tone, medium skin tone",
    "👩🏾‍🤝‍👨🏽;woman and man holding hands: medium-dark skin tone, medium skin tone",
    "👩🏾‍❤️‍👨🏾;couple with heart: woman, man, medium-dark skin tone",
    "👩🏾‍❤️‍💋‍👨🏾;kiss: woman, man, medium-dark skin tone",
    "👩🏾‍❤️‍👨🏿;couple with heart: woman, man, medium-dark skin tone, dark skin tone",
    "👩🏾‍❤️‍💋‍👨🏿;kiss: woman, man, medium-dark skin tone, dark skin tone",
    "👩🏾‍🤝‍👨🏿;woman and man holding hands: medium-dark skin tone, dark skin tone",
    "👩🏿‍❤️‍👨🏻;couple with heart: woman, man, dark skin tone, light skin tone",
    "👩🏿‍❤️‍💋‍👨🏻;kiss: woman, man, dark skin tone, light skin tone",
    "👩🏿‍🤝‍👨🏻;woman and man holding hands: dark skin tone, light skin tone",
    "👩🏿‍❤️‍👨🏼;couple with heart: woman, man, dark skin tone, medium-light skin tone",
    "👩🏿‍❤️‍💋‍👨🏼;kiss: woman, man, dark skin tone, medium-light skin tone",
    "👩🏿‍🤝‍👨🏼;woman and man holding hands: dark skin tone, medium-light skin tone",
    "👩🏿‍❤️‍👨🏽;couple with heart: woman, man, dark skin tone, medium skin tone",
    "👩🏿‍❤️‍💋‍👨🏽;kiss: woman, man, dark skin tone, medium skin tone",
    "👩🏿‍🤝‍👨🏽;woman and man holding hands: dark skin tone, medium skin tone",
    "👩🏿‍❤️‍👨🏾;couple with heart: woman, man, dark skin tone, medium-dark skin tone",
    "👩🏿‍❤️‍💋‍👨🏾;kiss: woman, man, dark skin tone, medium-dark skin tone",
    "👩🏿‍🤝‍👨🏾;woman and man holding hands: dark skin tone, medium-dark skin tone",
    "👩🏿‍❤️‍👨🏿;couple with heart: woman, man, dark skin tone",
    "👩🏿‍❤️‍💋‍👨🏿;kiss: woman, man, dark skin tone",
    "👩🏻‍❤️‍👩🏻;couple with heart: woman, woman, light skin tone",
    "👩🏻‍❤️‍💋‍👩🏻;kiss: woman, woman, light skin tone",
    "👩🏻‍❤️‍👩🏼;couple with heart: woman, woman, light skin tone, medium-light skin tone",
    "👩🏻‍❤️‍💋‍👩🏼;kiss: woman, woman, light skin tone, medium-light skin tone",
    "👩🏻‍🤝‍👩🏼;women holding hands: light skin tone, medium-light skin tone",
    "👩🏻‍❤️‍👩🏽;couple with heart: woman, woman, light skin tone, medium skin tone",
    "👩🏻‍❤️‍💋‍👩🏽;kiss: woman, woman, light skin tone, medium skin tone",
    "👩🏻‍🤝‍👩🏽;women holding hands: light skin tone, medium skin tone",
    "👩🏻‍❤️‍👩🏾;couple with heart: woman, woman, light skin tone, medium-dark skin tone",
    "👩🏻‍❤️‍💋‍👩🏾;kiss: woman, woman, light skin tone, medium-dark skin tone",
    "👩🏻‍🤝‍👩🏾;women holding hands: light skin tone, medium-dark skin tone",
    "👩🏻‍❤️‍👩🏿;couple with heart: woman, woman, light skin tone, dark skin tone",
    "👩🏻‍❤️‍💋‍👩🏿;kiss: woman, woman, light skin tone, dark skin tone",
    "👩🏻‍🤝‍👩🏿;women holding hands: light skin tone, dark skin tone",
    "👩🏼‍❤️‍👩🏻;couple with heart: woman, woman, medium-light skin tone, light skin tone",
    "👩🏼‍❤️‍💋‍👩🏻;kiss: woman, woman, medium-light skin tone, light skin tone",
    "👩🏼‍🤝‍👩🏻;women holding hands: medium-light skin tone, light skin tone",
    "👩🏼‍❤️‍👩🏼;couple with heart: woman, woman, medium-light skin tone",
    "👩🏼‍❤️‍💋‍👩🏼;kiss: woman, woman, medium-light skin tone",
    "👩🏼‍❤️‍👩🏽;couple with heart: woman, woman, medium-light skin tone, medium skin tone",
    "👩🏼‍❤️‍💋‍👩🏽;kiss: woman, woman, medium-light skin tone, medium skin tone",
    "👩🏼‍🤝‍👩🏽;women holding hands: medium-light skin tone, medium skin tone",
    "👩🏼‍❤️‍👩🏾;couple with heart: woman, woman, medium-light skin tone, medium-dark skin tone",
    "👩🏼‍❤️‍💋‍👩🏾;kiss: woman, woman, medium-light skin tone, medium-dark skin tone",
    "👩🏼‍🤝‍👩🏾;women holding hands: medium-light skin tone, medium-dark skin tone",
    "👩🏼‍❤️‍👩🏿;couple with heart: woman, woman, medium-light skin tone, dark skin tone",
    "👩🏼‍❤️‍💋‍👩🏿;kiss: woman, woman, medium-light skin tone, dark skin tone",
    "👩🏼‍🤝‍👩🏿;women holding hands: medium-light skin tone, dark skin tone",
    "👩🏽‍❤️‍👩🏻;couple with heart: woman, woman, medium skin tone, light skin tone",
    "👩🏽‍❤️‍💋‍👩🏻;kiss: woman, woman, medium skin tone, light skin tone",
    "👩🏽‍🤝‍👩🏻;women holding hands: medium skin tone, light skin tone",
    "👩🏽‍❤️‍👩🏼;couple with heart: woman, woman, medium skin tone, medium-light skin tone",
    "👩🏽‍❤️‍💋‍👩🏼;kiss: woman, woman, medium skin tone, medium-light skin tone",
    "👩🏽‍🤝‍👩🏼;women holding hands: medium skin tone, medium-light skin tone",
    "👩🏽‍❤️‍👩🏽;couple with heart: woman, woman, medium skin tone",
    "👩🏽‍❤️‍💋‍👩🏽;kiss: woman, woman, medium skin tone",
    "👩🏽‍❤️‍👩🏾;couple with heart: woman, woman, medium skin tone, medium-dark skin tone",
    "👩🏽‍❤️‍💋‍👩🏾;kiss: woman, woman, medium skin tone, medium-dark skin tone",
    "👩🏽‍🤝‍👩🏾;women holding hands: medium skin tone, medium-dark skin tone",
    "👩🏽‍❤️‍👩🏿;couple with heart: woman, woman, medium skin tone, dark skin tone",
    "👩🏽‍❤️‍💋‍👩🏿;kiss: woman, woman, medium skin tone, dark skin tone",
    "👩🏽‍🤝‍👩🏿;women holding hands: medium skin tone, dark skin tone",
    "👩🏾‍❤️‍👩🏻;couple with heart: woman, woman, medium-dark skin tone, light skin tone",
    "👩🏾‍❤️‍💋‍👩🏻;kiss: woman, woman, medium-dark skin tone, light skin tone",
    "👩🏾‍🤝‍👩🏻;women holding hands: medium-dark skin tone, light skin tone",
    "👩🏾‍❤️‍👩🏼;couple with heart: woman, woman, medium-dark skin tone, medium-light skin tone",
    "👩🏾‍❤️‍💋‍👩🏼;kiss: woman, woman, medium-dark skin tone, medium-light skin tone",
    "👩🏾‍🤝‍👩🏼;women holding hands: medium-dark skin tone, medium-light skin tone",
    "👩🏾‍❤️‍👩🏽;couple with heart: woman, woman, medium-dark skin tone, medium skin tone",
    "👩🏾‍❤️‍💋‍👩🏽;kiss: woman, woman, medium-dark skin tone, medium skin tone",
    "👩🏾‍🤝‍👩🏽;women holding hands: medium-dark skin tone, medium skin tone",
    "👩🏾‍❤️‍👩🏾;couple with heart: woman, woman, medium-dark skin tone",
    "👩🏾‍❤️‍💋‍👩🏾;kiss: woman, woman, medium-dark skin tone",
    "👩🏾‍❤️‍👩🏿;couple with heart: woman, woman, medium-dark skin tone, dark skin tone",
    "👩🏾‍❤️‍💋‍👩🏿;kiss: woman, woman, medium-dark skin tone, dark skin tone",
    "👩🏾‍🤝‍👩🏿;women holding hands: medium-dark skin tone, dark skin tone",
    "👩🏿‍❤️‍👩🏻;couple with heart: woman, woman, dark skin tone, light skin tone",
    "👩🏿‍❤️‍💋‍👩🏻;kiss: woman, woman, dark skin tone, light skin tone",
    "👩🏿‍🤝‍👩🏻;women holding hands: dark skin tone, light skin tone",
    "👩🏿‍❤️‍👩🏼;couple with heart: woman, woman, dark skin tone, medium-light skin tone",
    "👩🏿‍❤️‍💋‍👩🏼;kiss: woman, woman, dark skin tone, medium-light skin tone",
    "👩🏿‍🤝‍👩🏼;women holding hands: dark skin tone, medium-light skin tone",
    "👩🏿‍❤️‍👩🏽;couple with heart: woman, woman, dark skin tone, medium skin tone",
    "👩🏿‍❤️‍💋‍👩🏽;kiss: woman, woman, dark skin tone, medium skin tone",
    "👩🏿‍🤝‍👩🏽;women holding hands: dark skin tone, medium skin tone",
    "👩🏿‍❤️‍👩🏾;couple with heart: woman, woman, dark skin tone, medium-dark skin tone",
    "👩🏿‍❤️‍💋‍👩🏾;kiss: woman, woman, dark skin tone, medium-dark skin tone",
    "👩🏿‍🤝‍👩🏾;women holding hands: dark skin tone, medium-dark skin tone",
    "👩🏿‍❤️‍👩🏿;couple with heart: woman, woman, dark skin tone",
    "👩🏿‍❤️‍💋‍👩🏿;kiss: woman, woman, dark skin tone",
    "🧑🏻‍🤝‍🧑🏻;people holding hands: light skin tone",
    "🧑🏻‍❤️‍🧑🏼;couple with heart: person, person, light skin tone, medium-light skin tone",
    "🧑🏻‍❤️‍💋‍🧑🏼;kiss: person, person, light skin tone, medium-light skin tone",
    "🧑🏻‍🤝‍🧑🏼;people holding hands: light skin tone, medium-light skin tone",
    "🧑🏻‍❤️‍🧑🏽;couple with heart: person, person, light skin tone, medium skin tone",
    "🧑🏻‍❤️‍💋‍🧑🏽;kiss: person, person, light skin tone, medium skin tone",
    "🧑🏻‍🤝‍🧑🏽;people holding hands: light skin tone, medium skin tone",
    "🧑🏻‍❤️‍🧑🏾;couple with heart: person, person, light skin tone, medium-dark skin tone",
    "🧑🏻‍❤️‍💋‍🧑🏾;kiss: person, person, light skin tone, medium-dark skin tone",
    "🧑🏻‍🤝‍🧑🏾;people holding hands: light skin tone, medium-dark skin tone",
    "🧑🏻‍❤️‍🧑🏿;couple with heart: person, person, light skin tone, dark skin tone",
    "🧑🏻‍❤️‍💋‍🧑🏿;kiss: person, person, light skin tone, dark skin tone",
    "🧑🏻‍🤝‍🧑🏿;people holding hands: light skin tone, dark skin tone",
    "🧑🏼‍❤️‍🧑🏻;couple with heart: person, person, medium-light skin tone, light skin tone",
    "🧑🏼‍❤️‍💋‍🧑🏻;kiss: person, person, medium-light skin tone, light skin tone",
    "🧑🏼‍🤝‍🧑🏻;people holding hands: medium-light skin tone, light skin tone",
    "🧑🏼‍🤝‍🧑🏼;people holding hands: medium-light skin tone",
    "🧑🏼‍❤️‍🧑🏽;couple with heart: person, person, medium-light skin tone, medium skin tone",
    "🧑🏼‍❤️‍💋‍🧑🏽;kiss: person, person, medium-light skin tone, medium skin tone",
    "🧑🏼‍🤝‍🧑🏽;people holding hands: medium-light skin tone, medium skin tone",
    "🧑🏼‍❤️‍🧑🏾;couple with heart: person, person, medium-light skin tone, medium-dark skin tone",
    "🧑🏼‍❤️‍💋‍🧑🏾;kiss: person, person, medium-light skin tone, medium-dark skin tone",
    "🧑🏼‍🤝‍🧑🏾;people holding hands: medium-light skin tone, medium-dark skin tone",
    "🧑🏼‍❤️‍🧑🏿;couple with heart: person, person, medium-light skin tone, dark skin tone",
    "🧑🏼‍❤️‍💋‍🧑🏿;kiss: person, person, medium-light skin tone, dark skin tone",
    "🧑🏼‍🤝‍🧑🏿;people holding hands: medium-light skin tone, dark skin tone",
    "🧑🏽‍❤️‍🧑🏻;couple with heart: person, person, medium skin tone, light skin tone",
    "🧑🏽‍❤️‍💋‍🧑🏻;kiss: person, person, medium skin tone, light skin tone",
    "🧑🏽‍🤝‍🧑🏻;people holding hands: medium skin tone, light skin tone",
    "🧑🏽‍❤️‍🧑🏼;couple with heart: person, person, medium skin tone, medium-light skin tone",
    "🧑🏽‍❤️‍💋‍🧑🏼;kiss: person, person, medium skin tone, medium-light skin tone",
    "🧑🏽‍🤝‍🧑🏼;people holding hands: medium skin tone, medium-light skin tone",
    "🧑🏽‍🤝‍🧑🏽;people holding hands: medium skin tone",
    "🧑🏽‍❤️‍🧑🏾;couple with heart: person, person, medium skin tone, medium-dark skin tone",
    "🧑🏽‍❤️‍💋‍🧑🏾;kiss: person, person, medium skin tone, medium-dark skin tone",
    "🧑🏽‍🤝‍🧑🏾;people holding hands: medium skin tone, medium-dark skin tone",
    "🧑🏽‍❤️‍🧑🏿;couple with heart: person, person, medium skin tone, dark skin tone",
    "🧑🏽‍❤️‍💋‍🧑🏿;kiss: person, person, medium skin tone, dark skin tone",
    "🧑🏽‍🤝‍🧑🏿;people holding hands: medium skin tone, dark skin tone",
    "🧑🏾‍❤️‍🧑🏻;couple with heart: person, person, medium-dark skin tone, light skin tone",
    "🧑🏾‍❤️‍💋‍🧑🏻;kiss: person, person, medium-dark skin tone, light skin tone",
    "🧑🏾‍🤝‍🧑🏻;people holding hands: medium-dark skin tone, light skin tone",
    "🧑🏾‍❤️‍🧑🏼;couple with heart: person, person, medium-dark skin tone, medium-light skin tone",
    "🧑🏾‍❤️‍💋‍🧑🏼;kiss: person, person, medium-dark skin tone, medium-light skin tone",
    "🧑🏾‍🤝‍🧑🏼;people holding hands: medium-dark skin tone, medium-light skin tone",
    "🧑🏾‍❤️‍🧑🏽;couple with heart: person, person, medium-dark skin tone, medium skin tone",
    "🧑🏾‍❤️‍💋‍🧑🏽;kiss: person, person, medium-dark skin tone, medium skin tone",
    "🧑🏾‍🤝‍🧑🏽;people holding hands: medium-dark skin tone, medium skin tone",
    "🧑🏾‍🤝‍🧑🏾;people holding hands: medium-dark skin tone",
    "🧑🏾‍❤️‍🧑🏿;couple with heart: person, person, medium-dark skin tone, dark skin tone",
    "🧑🏾‍❤️‍💋‍🧑🏿;kiss: person, person, medium-dark skin tone, dark skin tone",
    "🧑🏾‍🤝‍🧑🏿;people holding hands: medium-dark skin tone, dark skin tone",
    "🧑🏿‍❤️‍🧑🏻;couple with heart: person, person, dark skin tone, light skin tone",
    "🧑🏿‍❤️‍💋‍🧑🏻;kiss: person, person, dark skin tone, light skin tone",
    "🧑🏿‍🤝‍🧑🏻;people holding hands: dark skin tone, light skin tone",
    "🧑🏿‍❤️‍🧑🏼;couple with heart: person, person, dark skin tone, medium-light skin tone",
    "🧑🏿‍❤️‍💋‍🧑🏼;kiss: person, person, dark skin tone, medium-light skin tone",
    "🧑🏿‍🤝‍🧑🏼;people holding hands: dark skin tone, medium-light skin tone",
    "🧑🏿‍❤️‍🧑🏽;couple with heart: person, person, dark skin tone, medium skin tone",
    "🧑🏿‍❤️‍💋‍🧑🏽;kiss: person, person, dark skin tone, medium skin tone",
    "🧑🏿‍🤝‍🧑🏽;people holding hands: dark skin tone, medium skin tone",
    "🧑🏿‍❤️‍🧑🏾;couple with heart: person, person, dark skin tone, medium-dark skin tone",
    "🧑🏿‍❤️‍💋‍🧑🏾;kiss: person, person, dark skin tone, medium-dark skin tone",
    "🧑🏿‍🤝‍🧑🏾;people holding hands: dark skin tone, medium-dark skin tone",
    "🧑🏿‍🤝‍🧑🏿;people holding hands: dark skin tone",
    "🫱🏻‍🫲🏼;handshake: light skin tone, medium-light skin tone",
    "🫱🏻‍🫲🏽;handshake: light skin tone, medium skin tone",
    "🫱🏻‍🫲🏾;handshake: light skin tone, medium-dark skin tone",
    "🫱🏻‍🫲🏿;handshake: light skin tone, dark skin tone",
    "🫱🏼‍🫲🏻;handshake: medium-light skin tone, light skin tone",
    "🫱🏼‍🫲🏽;handshake: medium-light skin tone, medium skin tone",
    "🫱🏼‍🫲🏾;handshake: medium-light skin tone, medium-dark skin tone",
    "🫱🏼‍🫲🏿;handshake: medium-light skin tone, dark skin tone",
    "🫱🏽‍🫲🏻;handshake: medium skin tone, light skin tone",
    "🫱🏽‍🫲🏼;handshake: medium skin tone, medium-light skin tone",
    "🫱🏽‍🫲🏾;handshake: medium skin tone, medium-dark skin tone",
    "🫱🏽‍🫲🏿;handshake: medium skin tone, dark skin tone",
    "🫱🏾‍🫲🏻;handshake: medium-dark skin tone, light skin tone",
    "🫱🏾‍🫲🏼;handshake: medium-dark skin tone, medium-light skin tone",
    "🫱🏾‍🫲🏽;handshake: medium-dark skin tone, medium skin tone",
    "🫱🏾‍🫲🏿;handshake: medium-dark skin tone, dark skin tone",
    "🫱🏿‍🫲🏻;handshake: dark skin tone, light skin tone",
    "🫱🏿‍🫲🏼;handshake: dark skin tone, medium-light skin tone",
    "🫱🏿‍🫲🏽;handshake: dark skin tone, medium skin tone",
    "🫱🏿‍🫲🏾;handshake: dark skin tone, medium-dark skin tone"]

end Manuscript.Emoji
