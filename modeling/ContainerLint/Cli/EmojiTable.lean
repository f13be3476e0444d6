/-
The short names of emoji, in small letters, and the characters that they stand for. The
names of one emoji are joined by bars, and come before its characters and an equals sign;
emoji are divided by blanks. A tilde stands for a tone of skin, and a percent sign for a
man or a woman: the emoji comes in all of them. Flags have a list of their own, with the
letters of the country.
-/
namespace ContainerLint.Cli

/-- The names of emoji and what they stand for, many to a line. -/
def emojiTable : List String := [
  "%=👨 %_artist=👨‍🎨 %_artist~=👨~‍🎨 %_astronaut=👨‍🚀 %_astronaut~=👨~‍🚀 %_biking=🚴‍♂️",
  "%_biking~=🚴~‍♂️ %_bouncing_ball=⛹️‍♂️ %_bouncing_ball~=⛹~‍♂️ %_bowing=🙇‍♂️ %_bowing~=🙇~‍♂️",
  "%_cartwheeling=🤸‍♂️ %_cartwheeling~=🤸~‍♂️ %_climbing=🧗‍♂️ %_climbing~=🧗~‍♂️",
  "%_construction_worker=👷‍♂️ %_construction_worker~=👷~‍♂️ %_cook=👨‍🍳 %_cook~=👨~‍🍳",
  "%_detective=🕵️‍♂️ %_detective~=🕵~‍♂️ %_elf=🧝‍♂️ %_elf~=🧝~‍♂️ %_facepalming=🤦‍♂️",
  "%_facepalming~=🤦~‍♂️ %_factory_worker=👨‍🏭 %_factory_worker~=👨~‍🏭 %_fairy=🧚‍♂️ %_fairy~=🧚~‍♂️",
  "%_farmer=👨‍🌾 %_farmer~=👨~‍🌾 %_firefighter=👨‍🚒 %_firefighter~=👨~‍🚒 %_frowning=🙍‍♂️",
  "%_frowning~=🙍~‍♂️ %_genie=🧞‍♂️ %_gesturing_no=🙅‍♂️ %_gesturing_no~=🙅~‍♂️ %_gesturing_ok=🙆‍♂️",
  "%_gesturing_ok~=🙆~‍♂️ %_getting_haircut=💇‍♂️ %_getting_haircut~=💇~‍♂️ %_getting_massage=💆‍♂️",
  "%_getting_massage~=💆~‍♂️ %_golfing=🏌️‍♂️ %_golfing~=🏌~‍♂️ %_guard=💂‍♂️ %_guard~=💂~‍♂️",
  "%_health_worker=👨‍⚕️ %_health_worker~=👨~‍⚕️ %_in_lotus_position=🧘‍♂️",
  "%_in_lotus_position~=🧘~‍♂️ %_in_manual_wheelchair=👨‍🦽 %_in_motorized_wheelchair=👨‍🦼",
  "%_in_steamy_room=🧖‍♂️ %_in_steamy_room~=🧖~‍♂️ %_judge=👨‍⚖️ %_judge~=👨~‍⚖️ %_juggling=🤹‍♂️",
  "%_juggling~=🤹~‍♂️ %_lifting_weights=🏋️‍♂️ %_lifting_weights~=🏋~‍♂️ %_mage=🧙‍♂️ %_mage~=🧙~‍♂️",
  "%_mechanic=👨‍🔧 %_mechanic~=👨~‍🔧 %_mountain_biking=🚵‍♂️ %_mountain_biking~=🚵~‍♂️",
  "%_office_worker=👨‍💼 %_office_worker~=👨~‍💼 %_pilot=👨‍✈️ %_pilot~=👨~‍✈️ %_playing_handball=🤾‍♂️",
  "%_playing_handball~=🤾~‍♂️ %_playing_water_polo=🤽‍♂️ %_playing_water_polo~=🤽~‍♂️",
  "%_police_officer=👮‍♂️ %_police_officer~=👮~‍♂️ %_pouting=🙎‍♂️ %_pouting~=🙎~‍♂️",
  "%_raising_hand=🙋‍♂️ %_raising_hand~=🙋~‍♂️ %_rowing_boat=🚣‍♂️ %_rowing_boat~=🚣~‍♂️",
  "%_running=🏃‍♂️ %_running~=🏃~‍♂️ %_scientist=👨‍🔬 %_scientist~=👨~‍🔬 %_shrugging=🤷‍♂️",
  "%_shrugging~=🤷~‍♂️ %_singer=👨‍🎤 %_singer~=👨~‍🎤 %_student=👨‍🎓 %_student~=👨~‍🎓 %_surfing=🏄‍♂️",
  "%_surfing~=🏄~‍♂️ %_swimming=🏊‍♂️ %_swimming~=🏊~‍♂️ %_teacher=👨‍🏫 %_teacher~=👨~‍🏫",
  "%_technologist=👨‍💻 %_technologist~=👨~‍💻 %_tipping_hand=💁‍♂️ %_tipping_hand~=💁~‍♂️",
  "%_vampire=🧛‍♂️ %_vampire~=🧛~‍♂️ %_walking=🚶‍♂️ %_walking~=🚶~‍♂️ %_wearing_turban=👳‍♂️",
  "%_wearing_turban~=👳~‍♂️ %_with_probing_cane=👨‍🦯 %_zombie=🧟‍♂️ %~=👨~ +1|thumbs_up|thumbsup=👍",
  "-1|__1|thumbs_down|thumbsdown=👎 100|hundred_points=💯 1234|input_numbers=🔢 1st_place_medal=🥇",
  "2nd_place_medal=🥈 3rd_place_medal=🥉 8ball|pool_8_ball=🎱 abacus=🧮 abcd|input_latin_lowercase=🔡",
  "abc|input_latin_letters=🔤 ab|ab_button_(blood_type)=🆎 accept|japanese_acceptable_button=🉑",
  "adhesive_bandage=🩹 admission_tickets=🎟 adult=🧑 adult~=🧑~ aerial_tramway=🚡 airplane=✈",
  "airplane_arrival|airplane_arriving=🛬 airplane_departure=🛫 alarm_clock=⏰ alembic=⚗ alien=👽",
  "alien_monster|space_invader=👾 ambulance=🚑 american_football|football=🏈 amphora=🏺 anchor=⚓",
  "angel|baby_angel=👼 anger|anger_symbol=💢 angry_face_with_horns|imp=👿 angry|angry_face=😠",
  "anguished|anguished_face=😧 ant=🐜 antenna_bars|signal_strength=📶",
  "anxious_face_with_sweat|cold_sweat=😰 apple|red_apple=🍎 aquarius=♒ aries=♈",
  "arrow_backward|reverse_button=◀ arrow_double_down|fast_down_button=⏬",
  "arrow_double_up|fast_up_button=⏫ arrow_down_small|downwards_button=🔽 arrow_down|down_arrow=⬇",
  "arrow_forward|play_button=▶ arrow_heading_down|right_arrow_curving_down=⤵",
  "arrow_heading_up|right_arrow_curving_up=⤴ arrow_left|left_arrow=⬅",
  "arrow_lower_left|down-left_arrow=↙ arrow_lower_right|down-right_arrow=↘",
  "arrow_right_hook|left_arrow_curving_right=↪ arrow_right|right_arrow=➡",
  "arrow_up_down|up-down_arrow=↕ arrow_up_small|upwards_button=🔼 arrow_upper_left|up-left_arrow=↖",
  "arrow_upper_right|up-right_arrow=↗ arrow_up|up_arrow=⬆",
  "arrows_clockwise|clockwise_vertical_arrows=🔃",
  "arrows_counterclockwise|counterclockwise_arrows_button=🔄 articulated_lorry=🚛",
  "art|artist_palette=🎨 astonished|astonished_face=😲 athletic_shoe|running_shoe=👟 atm|atm_sign=🏧",
  "atom_symbol=⚛ auto_rickshaw=🛺 automobile|car|red_car=🚗 avocado=🥑 axe=🪓",
  "a|a_button_(blood_type)=🅰 baby=👶 baby_angel~=👼~ baby_bottle=🍼 baby_chick=🐤 baby_symbol=🚼",
  "baby~=👶~ backhand_index_pointing_down|point_down=👇 backhand_index_pointing_down~=👇~",
  "backhand_index_pointing_left|point_left=👈 backhand_index_pointing_left~=👈~",
  "backhand_index_pointing_right|point_right=👉 backhand_index_pointing_right~=👉~",
  "backhand_index_pointing_up|point_up_2=👆 backhand_index_pointing_up~=👆~ back|back_arrow=🔙",
  "bacon=🥓 badger=🦡 badminton|badminton_racquet_and_shuttlecock=🏸 bagel=🥯 baggage_claim=🛄",
  "baguette_bread=🥖 balance_scale|scales=⚖ bald=🦲 bald_%=👨‍🦲 ballet_shoes=🩰 balloon=🎈",
  "ballot_box_with_ballot=🗳 ballot_box_with_check=☑ bamboo|pine_decoration=🎍 banana=🍌",
  "bangbang|double_exclamation_mark=‼ banjo=🪕 bank=🏦 bar_chart=📊 barber|barber_pole=💈 baseball=⚾",
  "basket=🧺 basketball=🏀 bat=🦇 bathtub=🛁 bath|person_taking_bath=🛀 battery=🔋",
  "beach_with_umbrella=🏖 beaming_face_with_smiling_eyes|grin=😁 bearded_person=🧔",
  "bearded_person~=🧔~ bear|bear_face=🐻 beating_heart|heartbeat=💓 bed=🛏 beers|clinking_beer_mugs=🍻",
  "beer|beer_mug=🍺 beetle|lady_beetle=🐞 bee|honeybee=🐝 beginner|japanese_symbol_for_beginner=🔰",
  "bell=🔔 bell_with_slash|no_bell=🔕 bellhop_bell=🛎 bento|bento_box=🍱 beverage_box=🧃",
  "bicycle|bike=🚲 bicyclist|person_biking=🚴 bikini=👙 billed_cap=🧢 biohazard|biohazard_sign=☣",
  "bird=🐦 birthday|birthday_cake=🎂 black_circle=⚫ black_circle_for_record|record_button=⏺",
  "black_flag|waving_black_flag=🏴 black_heart=🖤 black_joker|joker=🃏 black_large_square=⬛",
  "black_left__pointing_double_triangle_with_vertical_bar|last_track_button=⏮",
  "black_medium-small_square|black_medium_small_square=◾ black_medium_square=◼ black_nib=✒",
  "black_right__pointing_double_triangle_with_vertical_bar|next_track_button=⏭",
  "black_right__pointing_triangle_with_double_vertical_bar|play_or_pause_button=⏯",
  "black_small_square=▪ black_square_button=🔲 black_square_for_stop|stop_button=⏹",
  "blond-haired_%=👱‍♂️ blond-haired_%~=👱~‍♂️ blond-haired_person|person_with_blond_hair=👱",
  "blond-haired_person~=👱~ blossom=🌼 blowfish=🐡 blue_book=📘 blue_car|sport_utility_vehicle=🚙",
  "blue_circle|large_blue_circle=🔵 blue_heart=💙 blue_square=🟦",
  "blush|smiling_face_with_smiling_eyes=😊 boar=🐗 boat|sailboat=⛵ bomb=💣 bone=🦴 bookmark=🔖",
  "bookmark_tabs=📑 books=📚 book|open_book=📖 boom|collision=💥 boot|woman’s_boot=👢",
  "bottle_with_popping_cork=🍾 bouquet=💐 bow_and_arrow=🏹 bowl_with_spoon=🥣 bowling=🎳",
  "bow|person_bowing=🙇 boxing_glove=🥊 boy=👦 boy~=👦~ brain=🧠 bread=🍞 breast-feeding=🤱",
  "breast-feeding~=🤱~ brick=🧱 bride_with_veil=👰 bride_with_veil~=👰~ bridge_at_night=🌉 briefcase=💼",
  "briefs=🩲 bright_button|high_brightness=🔆 broccoli=🥦 broken_heart=💔 broom=🧹 brown_circle=🟤",
  "brown_heart=🤎 brown_square=🟫 bug=🐛 building_construction=🏗 bulb|light_bulb=💡",
  "bullet_train|bullettrain_front=🚅 bullettrain_side|high-speed_train=🚄 burrito=🌯 bus=🚌",
  "bus_stop|busstop=🚏 bust_in_silhouette=👤 busts_in_silhouette=👥 butter=🧈 butterfly=🦋",
  "b|b_button_(blood_type)=🅱 cactus=🌵 cake|shortcake=🍰 calendar|tear-off_calendar=📆",
  "call_me_hand=🤙 call_me_hand~=🤙~ calling|mobile_phone_with_arrow=📲 camel|two-hump_camel=🐫",
  "camera=📷 camera_with_flash=📸 camping=🏕 cancer=♋ candle=🕯 candy=🍬 canned_food=🥫 canoe=🛶",
  "capital_abcd|input_latin_uppercase=🔠 capricorn=♑ card_file_box=🗃 card_index=📇",
  "card_index_dividers=🗂 carousel_horse=🎠 carp_streamer|flags=🎏 carrot=🥕 castle|european_castle=🏰",
  "cat2=🐈 cat_face_with_tears_of_joy|joy_cat=😹 cat_face_with_wry_smile|smirk_cat=😼 cat|cat_face=🐱",
  "cd|optical_disk=💿 chains=⛓ chair=🪑 chart_decreasing|chart_with_downwards_trend=📉",
  "chart_increasing|chart_with_upwards_trend=📈 chart|chart_increasing_with_yen=💹",
  "checkered_flag|chequered_flag=🏁 cheese_wedge=🧀 cherries=🍒 cherry_blossom=🌸 chess_pawn=♟",
  "chestnut=🌰 chicken=🐔 child=🧒 children_crossing=🚸 child~=🧒~ chipmunk=🐿 chocolate_bar=🍫",
  "chopsticks=🥢 christmas_tree=🎄 church=⛪ cigarette|smoking=🚬 cinema=🎦 circled_m|m=Ⓜ",
  "circus_tent=🎪 city_sunrise|sunset=🌇 city_sunset|cityscape_at_dusk=🌆 cityscape=🏙",
  "clamp|compression=🗜 clapper|clapper_board=🎬 clapping_hands~=👏~ clap|clapping_hands=👏",
  "classical_building=🏛 clinking_glasses=🥂 clipboard=📋 clock1030|ten-thirty=🕥",
  "clock10|ten_o’clock=🕙 clock1130|eleven-thirty=🕦 clock11|eleven_o’clock=🕚",
  "clock1230|twelve-thirty=🕧 clock12|twelve_o’clock=🕛 clock130|one-thirty=🕜 clock1|one_o’clock=🕐",
  "clock230|two-thirty=🕝 clock2|two_o’clock=🕑 clock330|three-thirty=🕞 clock3|three_o’clock=🕒",
  "clock430|four-thirty=🕟 clock4|four_o’clock=🕓 clock530|five-thirty=🕠 clock5|five_o’clock=🕔",
  "clock630|six-thirty=🕡 clock6|six_o’clock=🕕 clock730|seven-thirty=🕢 clock7|seven_o’clock=🕖",
  "clock830|eight-thirty=🕣 clock8|eight_o’clock=🕗 clock930|nine-thirty=🕤 clock9|nine_o’clock=🕘",
  "closed_book=📕 closed_lock_with_key|locked_with_key=🔐",
  "closed_mailbox_with_lowered_flag|mailbox_closed=📪 closed_mailbox_with_raised_flag|mailbox=📫",
  "closed_umbrella=🌂 cloud=☁ cloud_with_lightning=🌩",
  "cloud_with_lightning_and_rain|thunder_cloud_and_rain=⛈ cloud_with_rain=🌧 cloud_with_snow=🌨",
  "cloud_with_tornado|tornado=🌪 clown_face=🤡 club_suit|clubs=♣ clutch_bag|pouch=👝 cl|cl_button=🆑",
  "coat=🧥 cocktail|cocktail_glass=🍸 coconut=🥥 cocos_(keeling)_islands|flag_for_cocos__islands=🇨🇨",
  "coffee|hot_beverage=☕ coffin=⚰ cold_face=🥶 comet=☄ compass=🧭 computer_disk|minidisc=💽",
  "computer_mouse|three_button_mouse=🖱 computer|laptop_computer=💻 confetti_ball=🎊",
  "confounded|confounded_face=😖 confused|confused_face=😕",
  "congo_-_brazzaville|flag_for_congo____brazzaville=🇨🇬",
  "congo_-_kinshasa|flag_for_congo____kinshasa=🇨🇩",
  "congratulations|japanese_congratulations_button=㊗ construction=🚧 construction_worker=👷",
  "construction_worker~=👷~ control_knobs=🎛 convenience_store=🏪 cooked_rice|rice=🍚 cookie=🍪",
  "cooking|egg=🍳 cool|cool_button=🆒 copyright=© cop|police_officer=👮 corn|ear_of_corn=🌽",
  "couch_and_lamp=🛋 couple_with_heart=💑 couple_with_heart_%_%=👨‍❤️‍👨",
  "couple_with_heart_woman_man=👩‍❤️‍👨 couplekiss=💏 couple|man_and_woman_holding_hands=👫 cow2=🐄",
  "cowboy_hat_face=🤠 cow|cow_face=🐮 crab=🦀 crayon|lower_left_crayon=🖍 credit_card=💳",
  "crescent_moon=🌙 cricket=🦗 cricket_bat_and_ball|cricket_game=🏏 crocodile=🐊 croissant=🥐",
  "cross_mark_button|negative_squared_cross_mark=❎ cross_mark|x=❌ crossed_fingers=🤞",
  "crossed_fingers~=🤞~ crossed_flags=🎌 crossed_swords=⚔ crown=👑 crying_cat_face=😿 crystal_ball=🔮",
  "cry|crying_face=😢 cucumber=🥒 cup_with_straw=🥤 cupcake=🧁 cupid|heart_with_arrow=💘",
  "curling_stone=🥌 curly-haired_%=👨‍🦱 curly_hair=🦱 curly_loop=➰ currency_exchange=💱",
  "curry|curry_rice=🍛 custard=🍮 customs=🛃 cut_of_meat=🥩 cyclone=🌀",
  "czechia|flag_for_czech_republic=🇨🇿 dagger|dagger_knife=🗡 dancers|people_with_bunny_ears=👯",
  "dancer|woman_dancing=💃 dango=🍡 dark_skin_tone|emoji_modifier_fitzpatrick_type__6=🏿",
  "dark_sunglasses=🕶 dart|direct_hit=🎯 dash|dashing_away=💨 date=📅 deaf_person=🧏 deciduous_tree=🌳",
  "deer=🦌 delivery_truck|truck=🚚 department_store=🏬 derelict_house|derelict_house_building=🏚",
  "desert=🏜 desert_island=🏝 desktop_computer=🖥 detective|sleuth_or_spy=🕵 detective~=🕵~",
  "diamond_shape_with_a_dot_inside|diamond_with_a_dot=💠 diamond_suit|diamonds=♦",
  "dim_button|low_brightness=🔅 disappointed_relieved|sad_but_relieved_face=😥",
  "disappointed|disappointed_face=😞 diving_mask=🤿 diya_lamp=🪔 dizzy=💫 dizzy_face=😵 dna=🧬",
  "do_not_litter|no_littering=🚯 dog2=🐕 dog|dog_face=🐶 dollar|dollar_banknote=💵",
  "dolls|japanese_dolls=🎎 dolphin|flipper=🐬 door=🚪 dotted_six-pointed_star|six_pointed_star=🔯",
  "double_curly_loop|loop=➿ double_vertical_bar|pause_button=⏸ doughnut=🍩 dove|dove_of_peace=🕊",
  "downcast_face_with_sweat|sweat=😓 dragon=🐉 dragon_face=🐲 dress=👗 dromedary_camel=🐪",
  "drooling_face=🤤 drop_of_blood=🩸 droplet=💧 drum=🥁 duck=🦆 dumpling=🥟 dvd=📀 e-mail|e__mail=📧",
  "eagle=🦅 ear=👂 ear_of_rice|sheaf_of_rice=🌾 ear_with_hearing_aid=🦻",
  "earth_africa|globe_showing_europe-africa=🌍 earth_americas|globe_showing_americas=🌎",
  "earth_asia|globe_showing_asia-australia=🌏 ear~=👂~ eggplant=🍆",
  "eight-pointed_star|eight_pointed_black_star=✴ eight-spoked_asterisk|eight_spoked_asterisk=✳",
  "eight|keycap_8=8️⃣ eject_button|eject_symbol=⏏ electric_plug=🔌 elephant=🐘 elf=🧝 elf~=🧝~",
  "email|envelope=✉ emoji_modifier_fitzpatrick_type__1__2|light_skin_tone=🏻",
  "emoji_modifier_fitzpatrick_type__3|medium_light_skin_tone=🏼",
  "emoji_modifier_fitzpatrick_type__4|medium_skin_tone=🏽",
  "emoji_modifier_fitzpatrick_type__5|medium_dark_skin_tone=🏾 end|end_arrow=🔚 england=🏴󠁧󠁢󠁥󠁮󠁧󠁿",
  "envelope_with_arrow=📩 european_post_office=🏤 euro|euro_banknote=💶 evergreen_tree=🌲 ewe|sheep=🐑",
  "exclamation_question_mark|interrobang=⁉ exclamation|exclamation_mark|heavy_exclamation_mark=❗",
  "exploding_head=🤯 expressionless|expressionless_face=😑 eye=👁 eye_in_speech_bubble=👁️‍🗨️",
  "eyeglasses|glasses=👓 eyes=👀 face_blowing_a_kiss|kissing_heart=😘 face_savoring_food|yum=😋",
  "face_screaming_in_fear|scream=😱 face_vomiting=🤮 face_with_hand_over_mouth=🤭",
  "face_with_head-bandage|face_with_head__bandage=🤕 face_with_medical_mask|mask=😷",
  "face_with_monocle=🧐 face_with_open_mouth|open_mouth=😮 face_with_raised_eyebrow=🤨",
  "face_with_rolling_eyes=🙄 face_with_steam_from_nose|triumph=😤 face_with_symbols_on_mouth=🤬",
  "face_with_tears_of_joy|joy=😂 face_with_thermometer=🤒 face_with_tongue|stuck_out_tongue=😛",
  "face_without_mouth|no_mouth=😶 facepunch|oncoming_fist|punch=👊 factory=🏭 fairy=🧚 fairy~=🧚~",
  "falafel=🧆 fallen_leaf=🍂 family=👪 family_%_%_boy=👨‍👨‍👦 family_%_%_boy_boy=👨‍👨‍👦‍👦",
  "family_%_%_girl=👨‍👨‍👧 family_%_%_girl_boy=👨‍👨‍👧‍👦 family_%_%_girl_girl=👨‍👨‍👧‍👧",
  "family_%_boy=👨‍👦 family_%_boy_boy=👨‍👦‍👦 family_%_girl=👨‍👧 family_%_girl_boy=👨‍👧‍👦",
  "family_%_girl_girl=👨‍👧‍👧 family_man_woman_boy=👨‍👩‍👦 family_man_woman_boy_boy=👨‍👩‍👦‍👦",
  "family_man_woman_girl=👨‍👩‍👧 family_man_woman_girl_boy=👨‍👩‍👧‍👦",
  "family_man_woman_girl_girl=👨‍👩‍👧‍👧 fast-forward_button|fast_forward=⏩",
  "fast_reverse_button|rewind=⏪ fax|fax_machine=📠 fearful|fearful_face=😨 feet|paw_prints=🐾",
  "female_sign=♀ ferris_wheel=🎡 ferry=⛴ field_hockey|field_hockey_stick_and_ball=🏑 file_cabinet=🗄",
  "file_folder=📁 film_frames=🎞 film_projector=📽 fire=🔥 fire_engine=🚒 fire_extinguisher=🧯",
  "firecracker=🧨 fireworks=🎆 first_quarter_moon=🌓",
  "first_quarter_moon_face|first_quarter_moon_with_face=🌛 fish=🐟 fish_cake|fish_cake_with_swirl=🍥",
  "fishing_pole|fishing_pole_and_fish=🎣 fist|raised_fist=✊ five|keycap_5=5️⃣",
  "flag_for_guinea__bissau|guinea-bissau=🇬🇼 flag_for_hong_kong|hong_kong_sar_china=🇭🇰",
  "flag_for_japan=🇯🇵 flag_for_macau|macau_sar_china=🇲🇴 flag_for_myanmar|myanmar_(burma)=🇲🇲",
  "flag_for_timor__leste|timor-leste=🇹🇱 flag_for_turkey=🇹🇷 flag_in_hole|golf=⛳ flamingo=🦩",
  "flashlight=🔦 flat_shoe=🥿 fleur-de-lis|fleur__de__lis=⚜ flexed_biceps|muscle=💪",
  "flexed_biceps~=💪~ floppy_disk=💾 flower_playing_cards=🎴 flushed|flushed_face=😳 flying_disc=🥏",
  "flying_saucer=🛸 fog=🌫 foggy=🌁 folded_hands|pray=🙏 folded_hands~=🙏~ foot=🦶 footprints=👣",
  "fork_and_knife=🍴 fork_and_knife_with_plate=🍽 fortune_cookie=🥠 fountain=⛲",
  "fountain_pen|lower_left_fountain_pen=🖋 four_leaf_clover=🍀 four|keycap_4=4️⃣ fox_face=🦊",
  "frame_with_picture|framed_picture=🖼 free|free_button=🆓 french_fries|fries=🍟 fried_shrimp=🍤",
  "frog|frog_face=🐸 front-facing_baby_chick|hatched_chick=🐥 frowning_face|white_frowning_face=☹",
  "frowning|frowning_face_with_open_mouth=😦 fuel_pump|fuelpump=⛽ full_moon=🌕",
  "full_moon_face|full_moon_with_face=🌝 funeral_urn=⚱ game_die=🎲 garlic=🧄 gear=⚙ gemini=♊",
  "gem|gem_stone=💎 genie=🧞 ghost=👻 gift_heart|heart_with_ribbon=💝 gift|wrapped_gift=🎁 giraffe=🦒",
  "girl=👧 girl~=👧~ glass_of_milk=🥛 globe_with_meridians=🌐 gloves=🧤 glowing_star|star2=🌟",
  "goal_net=🥅 goat=🐐 goblin|japanese_goblin=👺 goggles=🥽 golfer|person_golfing=🏌 gorilla=🦍",
  "graduation_cap|mortar_board=🎓 grapes=🍇 green_apple=🍏 green_book=📗 green_circle=🟢 green_heart=💚",
  "green_salad=🥗 green_square=🟩 grey_exclamation|white_exclamation_mark=❕",
  "grey_question|white_question_mark=❔ grimacing|grimacing_face=😬",
  "grinning_cat_face_with_smiling_eyes|smile_cat=😸 grinning_cat_face|smiley_cat=😺",
  "grinning_face_with_big_eyes|smiley=😃 grinning_face_with_smiling_eyes|smile=😄",
  "grinning_face_with_sweat|sweat_smile=😅 grinning_squinting_face|laughing|satisfied=😆",
  "grinning|grinning_face=😀 growing_heart|heartpulse=💗 guard|guardsman=💂 guard~=💂~ guide_dog=🦮",
  "guitar=🎸 gun|pistol=🔫 haircut|person_getting_haircut=💇 hamburger=🍔 hammer=🔨 hammer_and_pick=⚒",
  "hammer_and_wrench=🛠 hamster|hamster_face=🐹",
  "hand_with_fingers_splayed|raised_hand_with_fingers_splayed=🖐 hand_with_fingers_splayed~=🖐~",
  "handbag=👜 handshake=🤝 hand|raised_hand=✋ hankey|pile_of_poo|poop|shit=💩 hatching_chick=🐣",
  "headphone|headphones=🎧 hear-no-evil_monkey|hear_no_evil=🙉 heart_decoration=💟",
  "heart_eyes_cat|smiling_cat_face_with_heart-eyes=😻 heart_eyes|smiling_face_with_heart-eyes=😍",
  "heart_suit|hearts=♥ heart|red_heart=❤ heavy_check_mark=✔ heavy_division_sign=➗",
  "heavy_dollar_sign=💲 heavy_heart_exclamation|heavy_heart_exclamation_mark_ornament=❣",
  "heavy_large_circle|o=⭕ heavy_minus_sign=➖ heavy_multiplication_x=✖ heavy_plus_sign=➕",
  "hedgehog=🦔 helicopter=🚁 helm_symbol=⎈ helmet_with_white_cross|rescue_worker’s_helmet=⛑ herb=🌿",
  "hibiscus=🌺 high-heeled_shoe|high_heel=👠 high_voltage|zap=⚡ hiking_boot=🥾 hindu_temple=🛕",
  "hippopotamus=🦛 hocho|kitchen_knife|knife=🔪 hole=🕳 honey_pot=🍯",
  "horizontal_traffic_light|traffic_light=🚥 horse_racing=🏇 horse_racing~=🏇~ horse|horse_face=🐴",
  "hospital=🏥 hot_dog=🌭 hot_face=🥵 hot_pepper=🌶 hot_springs|hotsprings=♨ hotel=🏨",
  "hourglass_flowing_sand|hourglass_not_done=⏳ hourglass|hourglass_done=⌛ house=🏠",
  "house_buildings|houses=🏘 house_with_garden=🏡 hugging_face=🤗 hushed|hushed_face=😯 ice=🧊",
  "ice_cream=🍨 ice_hockey|ice_hockey_stick_and_puck=🏒 ice_skate=⛸ icecream|soft_ice_cream=🍦",
  "ideograph_advantage|japanese_bargain_button=🉐 id|id_button=🆔 inbox_tray=📥 incoming_envelope=📨",
  "index_pointing_up|point_up=☝ index_pointing_up~=☝~ infinity=♾",
  "information_desk_person|person_tipping_hand=💁 information|information_source=ℹ",
  "innocent|smiling_face_with_halo=😇 input_symbols|symbols=🔣 iphone|mobile_phone=📱",
  "izakaya_lantern|lantern|red_paper_lantern=🏮 jack-o-lantern|jack_o_lantern=🎃",
  "japanese_application_button|u7533=🈸 japanese_castle=🏯 japanese_discount_button|u5272=🈹",
  "japanese_free_of_charge_button|u7121=🈚 japanese_here_button|koko=🈁",
  "japanese_monthly_amount_button|u6708=🈷 japanese_no_vacancy_button|u6e80=🈵",
  "japanese_not_free_of_charge_button|u6709=🈶 japanese_ogre|ogre=👹",
  "japanese_open_for_business_button|u55b6=🈺 japanese_passing_grade_button|u5408=🈴",
  "japanese_post_office|post_office=🏣 japanese_prohibited_button|u7981=🈲",
  "japanese_reserved_button|u6307=🈯 japanese_secret_button|secret=㊙",
  "japanese_service_charge_button|sa=🈂 japanese_vacancy_button|u7a7a=🈳 japan|map_of_japan=🗾",
  "jeans=👖 jigsaw=🧩 joystick=🕹 kaaba=🕋 kangaroo=🦘 key=🔑 keyboard=⌨ keycap_#=#️⃣ keycap_*=*️⃣",
  "keycap_0|zero=0️⃣ keycap_10|ten=🔟 keycap_1|one=1️⃣ keycap_2|two=2️⃣ keycap_3|three=3️⃣",
  "keycap_6|six=6️⃣ keycap_7|seven=7️⃣ keycap_9|nine=9️⃣ keycap_asterisk=*⃣ keycap_digit_eight=8⃣",
  "keycap_digit_five=5⃣ keycap_digit_four=4⃣ keycap_digit_nine=9⃣ keycap_digit_one=1⃣",
  "keycap_digit_seven=7⃣ keycap_digit_six=6⃣ keycap_digit_three=3⃣ keycap_digit_two=2⃣",
  "keycap_digit_zero=0⃣ keycap_number_sign=#⃣ kick_scooter=🛴 kimono=👘 kiss_%_%=👨‍❤️‍💋‍👨",
  "kiss_woman_man=👩‍❤️‍💋‍👨 kissing_cat|kissing_cat_face=😽",
  "kissing_closed_eyes|kissing_face_with_closed_eyes=😚",
  "kissing_face_with_smiling_eyes|kissing_smiling_eyes=😙 kissing|kissing_face=😗 kiss|kiss_mark=💋",
  "kite=🪁 kiwi_fruit=🥝 koala=🐨 lab_coat=🥼 label=🏷 lacrosse=🥍 large_blue_diamond=🔷",
  "large_orange_diamond=🔶 last_quarter_moon=🌗",
  "last_quarter_moon_face|last_quarter_moon_with_face=🌜 latin_cross=✝",
  "leaf_fluttering_in_wind|leaves=🍃 leafy_green=🥬 ledger=📒 left-facing_fist=🤛",
  "left-facing_fist~=🤛~ left-right_arrow|left_right_arrow=↔ left_luggage=🛅 left_speech_bubble=🗨",
  "leftwards_arrow_with_hook|right_arrow_curving_left=↩ leg=🦵 lemon=🍋 leo=♌ leopard=🐆",
  "level_slider=🎚 libra=♎ light_rail=🚈 link=🔗 linked_paperclips=🖇 lion_face=🦁 lipstick=💄",
  "lips|mouth=👄 litter_in_bin_sign|put_litter_in_its_place=🚮 lizard=🦎 llama=🦙 lobster=🦞",
  "lock_with_ink_pen|locked_with_pen=🔏 lock|locked=🔒 locomotive|steam_locomotive=🚂 lollipop=🍭",
  "lotion_bottle=🧴 loud_sound|speaker_high_volume=🔊 loudly_crying_face|sob=😭 loudspeaker=📢",
  "love-you_gesture=🤟 love-you_gesture~=🤟~ love_hotel=🏩 love_letter=💌",
  "lower_left_ballpoint_pen|pen=🖊 lower_left_paintbrush|paintbrush=🖌 luggage=🧳 lying_face=🤥",
  "mag_right|magnifying_glass_tilted_right=🔎 mage=🧙 mage~=🧙~ magnet=🧲",
  "mag|magnifying_glass_tilted_left=🔍 mahjong|mahjong_red_dragon=🀄",
  "mailbox_with_mail|open_mailbox_with_raised_flag=📬",
  "mailbox_with_no_mail|open_mailbox_with_lowered_flag=📭 male_sign=♂ man_dancing=🕺",
  "man_dancing~=🕺~ man_in_business_suit_levitating|man_in_suit_levitating=🕴",
  "man_in_suit_levitating~=🕴~ man_in_tuxedo=🤵 man_in_tuxedo~=🤵~",
  "man_with_chinese_cap|man_with_gua_pi_mao=👲 man_with_chinese_cap~=👲~",
  "man_with_turban|person_wearing_turban=👳 mango=🥭 mans_shoe|man’s_shoe|shoe=👞",
  "mantelpiece_clock=🕰 manual_wheelchair=🦽 maple_leaf=🍁 martial_arts_uniform=🥋",
  "massage|person_getting_massage=💆 mate=🧉 meat_on_bone=🍖 mechanical_arm=🦾 mechanical_leg=🦿",
  "medical_symbol=⚕ mega|megaphone=📣 melon=🍈 memo|pencil=📝 men_with_bunny_ears=👯‍♂️",
  "men_wrestling=🤼‍♂️ menorah|menorah_with_nine_branches=🕎 mens|men’s_room=🚹 mermaid=🧜‍♀️",
  "mermaid~=🧜~‍♀️ merman=🧜‍♂️ merman~=🧜~‍♂️ merperson=🧜 merperson~=🧜~ metro=🚇 microbe=🦠",
  "microphone=🎤 microscope=🔬 middle_finger|reversed_hand_with_middle_finger_extended=🖕",
  "middle_finger~=🖕~ military_medal=🎖 milky_way=🌌 minibus=🚐 moai|moyai=🗿 mobile_phone_off=📴",
  "money-mouth_face|money__mouth_face=🤑 money_bag|moneybag=💰 money_with_wings=💸 monkey=🐒",
  "monkey_face=🐵 monorail=🚝 moon_cake=🥮 moon_viewing_ceremony|rice_scene=🎑",
  "moon|waxing_gibbous_moon=🌔 mosque=🕌 mosquito=🦟 motor_boat=🛥 motor_scooter=🛵",
  "motorcycle|racing_motorcycle=🏍 motorized_wheelchair=🦼 motorway=🛣 mount_fuji=🗻 mountain=⛰",
  "mountain_bicyclist|person_mountain_biking=🚵 mountain_cableway=🚠 mountain_railway=🚞 mouse2=🐁",
  "mouse|mouse_face=🐭 movie_camera=🎥 mrs._claus=🤶 mrs._claus~=🤶~ mushroom=🍄 musical_keyboard=🎹",
  "musical_note=🎵 musical_notes|notes=🎶 musical_score=🎼 mute|muted_speaker=🔇",
  "nail_care|nail_polish=💅 nail_polish~=💅~ name_badge=📛 national_park=🏞 nauseated_face=🤢",
  "nazar_amulet=🧿 necktie=👔 nerd_face=🤓 neutral_face=😐 new_moon=🌑",
  "new_moon_face|new_moon_with_face=🌚 newspaper=📰 new|new_button=🆕 ng|ng_button=🆖",
  "night_with_stars=🌃 no_bicycles=🚳 no_entry=⛔ no_entry_sign|prohibited=🚫",
  "no_good|person_gesturing_no=🙅 no_mobile_phones=📵 no_one_under_eighteen|underage=🔞",
  "no_pedestrians=🚷 no_smoking=🚭 non-potable_water|non__potable_water=🚱 nose=👃 nose~=👃~",
  "notebook=📓 notebook_with_decorative_cover=📔 nut_and_bolt=🔩 o2|o_button_(blood_type)=🅾",
  "ocean|water_wave=🌊 octopus=🐙 oden=🍢 office|office_building=🏢 oil_drum=🛢 ok_hand=👌 ok_hand~=👌~",
  "ok_woman|person_gesturing_ok=🙆 ok|ok_button=🆗 old_key=🗝 old_man|older_man=👴 old_man~=👴~",
  "old_woman|older_woman=👵 old_woman~=👵~ older_adult=🧓 older_adult~=🧓~ om|om_symbol=🕉",
  "oncoming_automobile=🚘 oncoming_bus=🚍 oncoming_fist~=👊~ oncoming_police_car=🚔 oncoming_taxi=🚖",
  "one-piece_swimsuit=🩱 onion=🧅 on|on!_arrow=🔛 open_file_folder=📂 open_hands=👐 open_hands~=👐~",
  "ophiuchus=⛎ orange_book=📙 orange_circle=🟠 orange_heart=🧡 orange_square=🟧 orangutan=🦧",
  "orthodox_cross=☦ otter=🦦 outbox_tray=📤 owl=🦉 ox=🐂 oyster=🦪 p_button|parking=🅿 package=📦",
  "page_facing_up=📄 page_with_curl=📃 pager=📟 palm_tree=🌴 palms_up_together=🤲",
  "palms_up_together~=🤲~ pancakes=🥞 panda_face=🐼 paperclip=📎 parrot=🦜 part_alternation_mark=〽",
  "partly_sunny|sun_behind_cloud=⛅ party_popper|tada=🎉 partying_face=🥳 passenger_ship=🛳",
  "passport_control=🛂 peace_symbol=☮ peach=🍑 peacock=🦚 peanuts=🥜 pear=🍐 pencil2=✏ penguin=🐧",
  "pensive|pensive_face=😔 people_holding_hands=🧑‍🤝‍🧑 people_wrestling=🤼 performing_arts=🎭",
  "persevere|persevering_face=😣 person_biking~=🚴~ person_bouncing_ball|person_with_ball=⛹",
  "person_bouncing_ball~=⛹~ person_bowing~=🙇~ person_cartwheeling=🤸 person_cartwheeling~=🤸~",
  "person_climbing=🧗 person_climbing~=🧗~ person_facepalming=🤦 person_facepalming~=🤦~",
  "person_fencing=🤺 person_frowning=🙍 person_frowning~=🙍~ person_gesturing_no~=🙅~",
  "person_gesturing_ok~=🙆~ person_getting_haircut~=💇~ person_getting_massage~=💆~",
  "person_golfing~=🏌~ person_in_bed|sleeping_accommodation=🛌 person_in_bed~=🛌~",
  "person_in_lotus_position=🧘 person_in_lotus_position~=🧘~ person_in_steamy_room=🧖",
  "person_in_steamy_room~=🧖~ person_juggling=🤹 person_juggling~=🤹~ person_kneeling=🧎",
  "person_lifting_weights|weight_lifter=🏋 person_lifting_weights~=🏋~ person_mountain_biking~=🚵~",
  "person_playing_handball=🤾 person_playing_handball~=🤾~ person_playing_water_polo=🤽",
  "person_playing_water_polo~=🤽~ person_pouting|person_with_pouting_face=🙎 person_pouting~=🙎~",
  "person_raising_hand|raising_hand=🙋 person_raising_hand~=🙋~ person_rowing_boat|rowboat=🚣",
  "person_rowing_boat~=🚣~ person_running|runner|running=🏃 person_running~=🏃~ person_shrugging=🤷",
  "person_shrugging~=🤷~ person_standing=🧍 person_surfing|surfer=🏄 person_surfing~=🏄~",
  "person_swimming|swimmer=🏊 person_swimming~=🏊~ person_taking_bath~=🛀~ person_tipping_hand~=💁~",
  "person_walking|walking=🚶 person_walking~=🚶~ person_wearing_turban~=👳~ petri_dish=🧫",
  "phone|telephone=☎ pick=⛏ pie=🥧 pig2=🐖 pig_nose=🐽 pig|pig_face=🐷 pill=💊 pinching_hand=🤏",
  "pineapple=🍍 ping_pong|table_tennis_paddle_and_ball=🏓 pirate_flag=🏴‍☠️ pisces=♓ pizza=🍕",
  "place_of_worship=🛐 pleading_face=🥺 police_car=🚓 police_car_light|rotating_light=🚨",
  "police_officer~=👮~ poodle=🐩 popcorn=🍿 postal_horn=📯 postbox=📮 pot_of_food|stew=🍲",
  "potable_water=🚰 potato=🥔 poultry_leg=🍗 pound|pound_banknote=💷 pouting_cat|pouting_cat_face=😾",
  "pouting_face|rage=😡 prayer_beads=📿 pregnant_woman=🤰 pregnant_woman~=🤰~ pretzel=🥨 prince=🤴",
  "princess=👸 princess~=👸~ prince~=🤴~ printer=🖨 probing_cane=🦯 purple_circle=🟣 purple_heart=💜",
  "purple_square=🟪 purse=👛 pushpin=📌 question|question_mark=❓ rabbit2=🐇 rabbit|rabbit_face=🐰",
  "raccoon=🦝 racehorse=🐎 racing_car=🏎 radio=📻 radio_button=🔘 radioactive|radioactive_sign=☢",
  "railway_car=🚃 railway_track=🛤 rainbow=🌈 rainbow_flag=🏳️‍🌈 raised_back_of_hand=🤚",
  "raised_back_of_hand~=🤚~ raised_fist~=✊~",
  "raised_hand_with_part_between_middle_and_ring_fingers|vulcan_salute=🖖",
  "raised_hands|raising_hands=🙌 raised_hand~=✋~ raising_hands~=🙌~ ram=🐏 ramen|steaming_bowl=🍜",
  "rat=🐀 razor=🪒 receipt=🧾 recycle|recycling_symbol=♻ red-haired_%=👨‍🦰 red_circle=🔴",
  "red_envelope=🧧 red_hair=🦰 red_square=🟥 red_triangle_pointed_down|small_red_triangle_down=🔻",
  "red_triangle_pointed_up|small_red_triangle=🔺",
  "regional_indicator_a|regional_indicator_symbol_letter_a=🇦",
  "regional_indicator_b|regional_indicator_symbol_letter_b=🇧",
  "regional_indicator_c|regional_indicator_symbol_letter_c=🇨",
  "regional_indicator_d|regional_indicator_symbol_letter_d=🇩",
  "regional_indicator_e|regional_indicator_symbol_letter_e=🇪",
  "regional_indicator_f|regional_indicator_symbol_letter_f=🇫",
  "regional_indicator_g|regional_indicator_symbol_letter_g=🇬",
  "regional_indicator_h|regional_indicator_symbol_letter_h=🇭",
  "regional_indicator_i|regional_indicator_symbol_letter_i=🇮",
  "regional_indicator_j|regional_indicator_symbol_letter_j=🇯",
  "regional_indicator_k|regional_indicator_symbol_letter_k=🇰",
  "regional_indicator_l|regional_indicator_symbol_letter_l=🇱",
  "regional_indicator_m|regional_indicator_symbol_letter_m=🇲",
  "regional_indicator_n|regional_indicator_symbol_letter_n=🇳",
  "regional_indicator_o|regional_indicator_symbol_letter_o=🇴",
  "regional_indicator_p|regional_indicator_symbol_letter_p=🇵",
  "regional_indicator_q|regional_indicator_symbol_letter_q=🇶",
  "regional_indicator_r|regional_indicator_symbol_letter_r=🇷",
  "regional_indicator_symbol_letter_t|regional_indicator_t=🇹",
  "regional_indicator_symbol_letter_u|regional_indicator_u=🇺",
  "regional_indicator_symbol_letter_v|regional_indicator_v=🇻",
  "regional_indicator_symbol_letter_w|regional_indicator_w=🇼",
  "regional_indicator_symbol_letter_x|regional_indicator_x=🇽",
  "regional_indicator_symbol_letter_y|regional_indicator_y=🇾",
  "regional_indicator_symbol_letter_z|regional_indicator_z=🇿",
  "regional_indicator_s|regional_indicator_symbol_letter_s=🇸 registered=® relaxed|smiling_face=☺",
  "relieved|relieved_face=😌 reminder_ribbon=🎗 repeat_one|repeat_single_button=🔂",
  "repeat|repeat_button=🔁 restroom=🚻 revolving_hearts=💞 rhinoceros=🦏 ribbon=🎀 rice_ball=🍙",
  "rice_cracker=🍘 right-facing_fist=🤜 right-facing_fist~=🤜~ right_anger_bubble=🗯 ring=💍",
  "ringed_planet=🪐 roasted_sweet_potato|sweet_potato=🍠 robot|robot_face=🤖 rocket=🚀",
  "roll_of_paper=🧻 rolled-up_newspaper|rolled__up_newspaper=🗞 roller_coaster=🎢",
  "rolling_on_the_floor_laughing=🤣 rooster=🐓 rose=🌹 rosette=🏵 round_pushpin=📍 rugby_football=🏉",
  "running_shirt|running_shirt_with_sash=🎽 safety_pin=🧷 safety_vest=🦺 sagittarius=♐ sake=🍶 salt=🧂",
  "sandal|woman’s_sandal=👡 sandwich=🥪 santa_claus~=🎅~ santa|santa_claus=🎅 sari=🥻",
  "satellite|satellite_antenna=📡 sauropod=🦕 saxophone=🎷 scarf=🧣 school=🏫",
  "school_backpack|school_satchel=🎒 scissors=✂ scorpion=🦂 scorpio|scorpius=♏ scotland=🏴󠁧󠁢󠁳󠁣󠁴󠁿",
  "scream_cat|weary_cat_face=🙀 scroll=📜 seat=💺 see-no-evil_monkey|see_no_evil=🙈 seedling=🌱",
  "selfie=🤳 selfie~=🤳~ service_dog=🐕‍🦺 shallow_pan_of_food=🥘 shamrock=☘ shark=🦈 shaved_ice=🍧",
  "shell|spiral_shell=🐚 shield=🛡 shinto_shrine=⛩ ship=🚢 shirt|t-shirt|tshirt=👕",
  "shooting_star|stars=🌠 shopping_bags=🛍 shopping_cart=🛒 shorts=🩳 shower=🚿 shrimp=🦐",
  "shuffle_tracks_button|twisted_rightwards_arrows=🔀 shushing_face=🤫 sign_of_the_horns=🤘",
  "sign_of_the_horns~=🤘~ skateboard=🛹 skier=⛷ ski|skis=🎿 skull=💀 skull_and_crossbones=☠ skunk=🦨",
  "sled=🛷 sleeping|sleeping_face=😴 sleepy|sleepy_face=😪 slightly_frowning_face=🙁",
  "slightly_smiling_face=🙂 slot_machine=🎰 sloth=🦥 small_airplane=🛩 small_blue_diamond=🔹",
  "small_orange_diamond=🔸 smiling_face_with_3_hearts=🥰 smiling_face_with_horns|smiling_imp=😈",
  "smiling_face_with_sunglasses|sunglasses=😎 smirk|smirking_face=😏 snail=🐌 snake=🐍",
  "sneezing_face=🤧 snow-capped_mountain|snow_capped_mountain=🏔 snowboarder=🏂 snowboarder~=🏂~",
  "snowflake=❄ snowman=☃ snowman_without_snow=⛄ soap=🧼 soccer|soccer_ball=⚽ socks=🧦 softball=🥎",
  "soon|soon_arrow=🔜 sos|sos_button=🆘 sound|speaker_medium_volume=🔉 spade_suit|spades=♠",
  "spaghetti=🍝 sparkle=❇ sparkler=🎇 sparkles=✨ sparkling_heart=💖",
  "speak-no-evil_monkey|speak_no_evil=🙊 speaker|speaker_low_volume=🔈",
  "speaking_head|speaking_head_in_silhouette=🗣 speech_balloon=💬 speedboat=🚤 spider=🕷 spider_web=🕸",
  "spiral_calendar|spiral_calendar_pad=🗓 spiral_note_pad|spiral_notepad=🗒 sponge=🧽 spoon=🥄",
  "sports_medal=🏅 spouting_whale|whale=🐳 squid=🦑",
  "squinting_face_with_tongue|stuck_out_tongue_closed_eyes=😝 stadium=🏟 star-struck=🤩",
  "star_and_crescent=☪ star_of_david=✡ star|white_medium_star=⭐ station=🚉 statue_of_liberty=🗽",
  "stethoscope=🩺 stop_sign=🛑 stopwatch=⏱ straight_ruler=📏 strawberry=🍓",
  "stuck_out_tongue_winking_eye|winking_face_with_tongue=😜 studio_microphone=🎙",
  "stuffed_flatbread=🥙 sun_behind_large_cloud|white_sun_behind_cloud=🌥",
  "sun_behind_rain_cloud|white_sun_behind_cloud_with_rain=🌦",
  "sun_behind_small_cloud|white_sun_with_small_cloud=🌤 sun_with_face=🌞 sunflower=🌻 sunrise=🌅",
  "sunrise_over_mountains=🌄 sun|sunny=☀ superhero=🦸 supervillain=🦹 sushi=🍣 suspension_railway=🚟",
  "swan=🦢 sweat_droplets|sweat_drops=💦 synagogue=🕍 syringe=💉 t-rex=🦖 taco=🌮 takeout_box=🥡",
  "tanabata_tree=🎋 tangerine=🍊 taurus=♉ taxi=🚕 tea|teacup_without_handle=🍵 teddy_bear=🧸",
  "telephone_receiver=📞 telescope=🔭 television|tv=📺 tennis=🎾 tent=⛺ test_tube=🧪 thermometer=🌡",
  "thinking_face=🤔 thought_balloon=💭 thread=🧵 thumbs_down~=👎~ thumbs_up~=👍~ ticket=🎫 tiger2=🐅",
  "tiger|tiger_face=🐯 timer_clock=⏲ tired_face=😫 tm|trade_mark=™ toilet=🚽 tokyo_tower=🗼 tomato=🍅",
  "tongue=👅 toolbox=🧰 tooth=🦷 top_hat|tophat=🎩 top|top_arrow=🔝 trackball=🖲 tractor=🚜 train2=🚆",
  "train|tram_car=🚋 tram=🚊 triangular_flag|triangular_flag_on_post=🚩 triangular_ruler=📐",
  "trident|trident_emblem=🔱 trolleybus=🚎 trophy=🏆 tropical_drink=🍹 tropical_fish=🐠 trumpet=🎺",
  "tulip=🌷 tumbler_glass=🥃 turkey=🦃 turtle=🐢 two_hearts=💕 two_men_holding_hands=👬",
  "two_women_holding_hands=👭 umbrella=☂ umbrella_on_ground=⛱ umbrella_with_rain_drops=☔",
  "unamused|unamused_face=😒 unicorn_face=🦄 united_nations=🇺🇳 unlock|unlocked=🔓",
  "upside-down_face|upside__down_face=🙃 up|up!_button=🆙 vampire=🧛 vampire~=🧛~",
  "vertical_traffic_light=🚦 vhs|videocassette=📼 vibration_mode=📳 victory_hand~=✌~ video_camera=📹",
  "video_game=🎮 violin=🎻 virgo=♍ volcano=🌋 volleyball=🏐 vs|vs_button=🆚 vulcan_salute~=🖖~",
  "v|victory_hand=✌ waffle=🧇 wales=🏴󠁧󠁢󠁷󠁬󠁳󠁿 waning_crescent_moon=🌘 waning_gibbous_moon=🌖 warning=⚠",
  "wastebasket=🗑 watch=⌚ water_buffalo=🐃 water_closet|wc=🚾 watermelon=🍉 wave|waving_hand=👋",
  "waving_hand~=👋~ waving_white_flag|white_flag=🏳 wavy_dash=〰 waxing_crescent_moon=🌒",
  "weary|weary_face=😩 wedding=💒 whale2=🐋 wheel_of_dharma=☸ wheelchair|wheelchair_symbol=♿",
  "white-haired_%=👨‍🦳 white_check_mark|white_heavy_check_mark=✅ white_circle=⚪ white_flower=💮",
  "white_hair=🦳 white_heart=🤍 white_large_square=⬜",
  "white_medium-small_square|white_medium_small_square=◽ white_medium_square=◻",
  "white_small_square=▫ white_square_button=🔳 wilted_flower=🥀 wind_blowing_face|wind_face=🌬",
  "wind_chime=🎐 wine_glass=🍷 wink|winking_face=😉 wolf|wolf_face=🐺 woman_dancing~=💃~",
  "woman_with_headscarf=🧕 woman_with_headscarf~=🧕~ womans_clothes|woman’s_clothes=👚",
  "womans_hat|woman’s_hat=👒 women_with_bunny_ears=👯‍♀️ women_wrestling=🤼‍♀️ womens|women’s_room=🚺",
  "woozy_face=🥴 world_map=🗺 worried|worried_face=😟 wrench=🔧 writing_hand=✍ writing_hand~=✍~",
  "yarn=🧶 yawning_face=🥱 yellow_circle=🟡 yellow_heart=💛 yellow_square=🟨 yen|yen_banknote=💴",
  "yin_yang=☯ yo-yo=🪀 zany_face=🤪 zebra=🦓 zipper-mouth_face|zipper__mouth_face=🤐 zombie=🧟 zzz=💤"]

/-- The countries and the letters of their flags, many to a line. -/
def flagTable : List String := [
  "afghanistan=AF albania=AL algeria=DZ american_samoa=AS andorra=AD angola=AO anguilla=AI",
  "antarctica=AQ antigua_&_barbuda=AG argentina=AR armenia=AM aruba=AW ascension_island=AC",
  "australia=AU austria=AT azerbaijan=AZ bahamas=BS bahrain=BH bangladesh=BD barbados=BB",
  "belarus=BY belgium=BE belize=BZ benin=BJ bermuda=BM bhutan=BT bolivia=BO",
  "bosnia_&_herzegovina=BA botswana=BW bouvet_island=BV brazil=BR",
  "british_indian_ocean_territory=IO british_virgin_islands=VG brunei=BN bulgaria=BG",
  "burkina_faso=BF burundi=BI cambodia=KH cameroon=CM canada=CA canary_islands=IC cape_verde=CV",
  "caribbean_netherlands=BQ cayman_islands=KY central_african_republic=CF ceuta_&_melilla=EA",
  "chad=TD chile=CL china=CN christmas_island=CX clipperton_island=CP colombia=CO comoros=KM",
  "cook_islands=CK costa_rica=CR croatia=HR cuba=CU curaçao=CW cyprus=CY côte_d’ivoire=CI",
  "denmark=DK diego_garcia=DG djibouti=DJ dominica=DM dominican_republic=DO ecuador=EC egypt=EG",
  "el_salvador=SV equatorial_guinea=GQ eritrea=ER estonia=EE ethiopia=ET european_union=EU",
  "falkland_islands=FK faroe_islands=FO fiji=FJ finland=FI france=FR french_guiana=GF",
  "french_polynesia=PF french_southern_territories=TF gabon=GA gambia=GM georgia=GE germany=DE",
  "ghana=GH gibraltar=GI greece=GR greenland=GL grenada=GD guadeloupe=GP guam=GU guatemala=GT",
  "guernsey=GG guinea=GN guyana=GY haiti=HT heard_&_mcdonald_islands=HM honduras=HN hungary=HU",
  "iceland=IS india=IN indonesia=ID iran=IR iraq=IQ ireland=IE isle_of_man=IM israel=IL italy=IT",
  "jamaica=JM jersey=JE jordan=JO kazakhstan=KZ kenya=KE kiribati=KI kosovo=XK kuwait=KW",
  "kyrgyzstan=KG laos=LA latvia=LV lebanon=LB lesotho=LS liberia=LR libya=LY liechtenstein=LI",
  "lithuania=LT luxembourg=LU macedonia=MK madagascar=MG malawi=MW malaysia=MY maldives=MV",
  "mali=ML malta=MT marshall_islands=MH martinique=MQ mauritania=MR mauritius=MU mayotte=YT",
  "mexico=MX micronesia=FM moldova=MD monaco=MC mongolia=MN montenegro=ME montserrat=MS",
  "morocco=MA mozambique=MZ namibia=NA nauru=NR nepal=NP netherlands=NL new_caledonia=NC",
  "new_zealand=NZ nicaragua=NI niger=NE nigeria=NG niue=NU norfolk_island=NF north_korea=KP",
  "northern_mariana_islands=MP norway=NO oman=OM pakistan=PK palau=PW palestinian_territories=PS",
  "panama=PA papua_new_guinea=PG paraguay=PY peru=PE philippines=PH pitcairn_islands=PN poland=PL",
  "portugal=PT puerto_rico=PR qatar=QA romania=RO russia=RU rwanda=RW réunion=RE samoa=WS",
  "san_marino=SM saudi_arabia=SA senegal=SN serbia=RS seychelles=SC sierra_leone=SL singapore=SG",
  "sint_maarten=SX slovakia=SK slovenia=SI solomon_islands=SB somalia=SO south_africa=ZA",
  "south_georgia_&_south_sandwich_islands=GS south_korea=KR south_sudan=SS spain=ES sri_lanka=LK",
  "st._barthélemy=BL st._helena=SH st._kitts_&_nevis=KN st._lucia=LC st._martin=MF",
  "st._pierre_&_miquelon=PM st._vincent_&_grenadines=VC sudan=SD suriname=SR",
  "svalbard_&_jan_mayen=SJ swaziland=SZ sweden=SE switzerland=CH syria=SY são_tomé_&_príncipe=ST",
  "taiwan=TW tajikistan=TJ tanzania=TZ thailand=TH togo=TG tokelau=TK tonga=TO",
  "trinidad_&_tobago=TT tristan_da_cunha=TA tunisia=TN turkmenistan=TM turks_&_caicos_islands=TC",
  "tuvalu=TV u.s._outlying_islands=UM u.s._virgin_islands=VI uganda=UG ukraine=UA",
  "united_arab_emirates=AE united_kingdom=GB united_states=US uruguay=UY uzbekistan=UZ vanuatu=VU",
  "vatican_city=VA venezuela=VE vietnam=VN wallis_&_futuna=WF western_sahara=EH yemen=YE",
  "zambia=ZM zimbabwe=ZW åland_islands=AX"]

end ContainerLint.Cli
