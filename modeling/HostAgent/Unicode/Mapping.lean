import HostAgent.Text.Table

/-!
# The mapping of domain names

What becomes of each character of a domain name before it is looked up: it stays, vanishes, is
refused, or is replaced, as the compatibility processing of internationalized domain names lays
down.  The sharp s, the final sigma and the joiners stay.

* `Treatment` — the four cases.
* `treatment` — the table, of which an entry holds up to the next one.
-/

namespace HostAgent.Unicode

/-- What becomes of a character. -/
inductive Treatment where
  | keep
  | refuse
  | drop
  | replace (by_ : List Char)
  deriving DecidableEq, Repr

/-- What an entry tells: a kind, and the replacement if there is one. -/
def Treatment.ofNumbers : List Nat → Treatment
  | [0] => .keep
  | [2] => .drop
  | 3 :: by_ => .replace (by_.map Char.ofNat)
  | _ => .refuse

set_option maxRecDepth 100000 in
/-- What the table tells. -/
def treatmentRows : List (List (List Nat)) :=
   [[[0, 0], [65, 3, 97], [1, 3, 98], [1, 3, 99], [1, 3, 100], [1, 3, 101], [1, 3, 102]],
    [[1, 3, 103], [1, 3, 104], [1, 3, 105], [1, 3, 106], [1, 3, 107], [1, 3, 108], [1, 3, 109]],
    [[1, 3, 110], [1, 3, 111], [1, 3, 112], [1, 3, 113], [1, 3, 114], [1, 3, 115], [1, 3, 116]],
    [[1, 3, 117], [1, 3, 118], [1, 3, 119], [1, 3, 120], [1, 3, 121], [1, 3, 122], [1, 0]],
    [[37, 1], [32, 3, 32], [1, 0], [7, 3, 32, 776], [1, 0], [1, 3, 97], [1, 0], [2, 2], [1, 0]],
    [[1, 3, 32, 772], [1, 0], [2, 3, 50], [1, 3, 51], [1, 3, 32, 769], [1, 3, 956], [1, 0]],
    [[2, 3, 32, 807], [1, 3, 49], [1, 3, 111], [1, 0], [1, 3, 49, 8260, 52], [1, 3, 49, 8260, 50]],
    [[1, 3, 51, 8260, 52], [1, 0], [1, 3, 224], [1, 3, 225], [1, 3, 226], [1, 3, 227]],
    [[1, 3, 228], [1, 3, 229], [1, 3, 230], [1, 3, 231], [1, 3, 232], [1, 3, 233], [1, 3, 234]],
    [[1, 3, 235], [1, 3, 236], [1, 3, 237], [1, 3, 238], [1, 3, 239], [1, 3, 240], [1, 3, 241]],
    [[1, 3, 242], [1, 3, 243], [1, 3, 244], [1, 3, 245], [1, 3, 246], [1, 0], [1, 3, 248]],
    [[1, 3, 249], [1, 3, 250], [1, 3, 251], [1, 3, 252], [1, 3, 253], [1, 3, 254], [1, 0]],
    [[33, 3, 257], [1, 0], [1, 3, 259], [1, 0], [1, 3, 261], [1, 0], [1, 3, 263], [1, 0]],
    [[1, 3, 265], [1, 0], [1, 3, 267], [1, 0], [1, 3, 269], [1, 0], [1, 3, 271], [1, 0]],
    [[1, 3, 273], [1, 0], [1, 3, 275], [1, 0], [1, 3, 277], [1, 0], [1, 3, 279], [1, 0]],
    [[1, 3, 281], [1, 0], [1, 3, 283], [1, 0], [1, 3, 285], [1, 0], [1, 3, 287], [1, 0]],
    [[1, 3, 289], [1, 0], [1, 3, 291], [1, 0], [1, 3, 293], [1, 0], [1, 3, 295], [1, 0]],
    [[1, 3, 297], [1, 0], [1, 3, 299], [1, 0], [1, 3, 301], [1, 0], [1, 3, 303], [1, 0]],
    [[1, 3, 105, 775], [1, 0], [1, 3, 105, 106], [2, 3, 309], [1, 0], [1, 3, 311], [1, 0]],
    [[2, 3, 314], [1, 0], [1, 3, 316], [1, 0], [1, 3, 318], [1, 0], [1, 3, 108, 183], [2, 3, 322]],
    [[1, 0], [1, 3, 324], [1, 0], [1, 3, 326], [1, 0], [1, 3, 328], [1, 0], [1, 3, 700, 110]],
    [[1, 3, 331], [1, 0], [1, 3, 333], [1, 0], [1, 3, 335], [1, 0], [1, 3, 337], [1, 0]],
    [[1, 3, 339], [1, 0], [1, 3, 341], [1, 0], [1, 3, 343], [1, 0], [1, 3, 345], [1, 0]],
    [[1, 3, 347], [1, 0], [1, 3, 349], [1, 0], [1, 3, 351], [1, 0], [1, 3, 353], [1, 0]],
    [[1, 3, 355], [1, 0], [1, 3, 357], [1, 0], [1, 3, 359], [1, 0], [1, 3, 361], [1, 0]],
    [[1, 3, 363], [1, 0], [1, 3, 365], [1, 0], [1, 3, 367], [1, 0], [1, 3, 369], [1, 0]],
    [[1, 3, 371], [1, 0], [1, 3, 373], [1, 0], [1, 3, 375], [1, 0], [1, 3, 255], [1, 3, 378]],
    [[1, 0], [1, 3, 380], [1, 0], [1, 3, 382], [1, 0], [1, 3, 115], [1, 0], [1, 3, 595]],
    [[1, 3, 387], [1, 0], [1, 3, 389], [1, 0], [1, 3, 596], [1, 3, 392], [1, 0], [1, 3, 598]],
    [[1, 3, 599], [1, 3, 396], [1, 0], [2, 3, 477], [1, 3, 601], [1, 3, 603], [1, 3, 402], [1, 0]],
    [[1, 3, 608], [1, 3, 611], [1, 0], [1, 3, 617], [1, 3, 616], [1, 3, 409], [1, 0], [3, 3, 623]],
    [[1, 3, 626], [1, 0], [1, 3, 629], [1, 3, 417], [1, 0], [1, 3, 419], [1, 0], [1, 3, 421]],
    [[1, 0], [1, 3, 640], [1, 3, 424], [1, 0], [1, 3, 643], [1, 0], [2, 3, 429], [1, 0]],
    [[1, 3, 648], [1, 3, 432], [1, 0], [1, 3, 650], [1, 3, 651], [1, 3, 436], [1, 0], [1, 3, 438]],
    [[1, 0], [1, 3, 658], [1, 3, 441], [1, 0], [3, 3, 445], [1, 0], [7, 3, 100, 382]],
    [[3, 3, 108, 106], [3, 3, 110, 106], [3, 3, 462], [1, 0], [1, 3, 464], [1, 0], [1, 3, 466]],
    [[1, 0], [1, 3, 468], [1, 0], [1, 3, 470], [1, 0], [1, 3, 472], [1, 0], [1, 3, 474], [1, 0]],
    [[1, 3, 476], [1, 0], [2, 3, 479], [1, 0], [1, 3, 481], [1, 0], [1, 3, 483], [1, 0]],
    [[1, 3, 485], [1, 0], [1, 3, 487], [1, 0], [1, 3, 489], [1, 0], [1, 3, 491], [1, 0]],
    [[1, 3, 493], [1, 0], [1, 3, 495], [1, 0], [2, 3, 100, 122], [3, 3, 501], [1, 0], [1, 3, 405]],
    [[1, 3, 447], [1, 3, 505], [1, 0], [1, 3, 507], [1, 0], [1, 3, 509], [1, 0], [1, 3, 511]],
    [[1, 0], [1, 3, 513], [1, 0], [1, 3, 515], [1, 0], [1, 3, 517], [1, 0], [1, 3, 519], [1, 0]],
    [[1, 3, 521], [1, 0], [1, 3, 523], [1, 0], [1, 3, 525], [1, 0], [1, 3, 527], [1, 0]],
    [[1, 3, 529], [1, 0], [1, 3, 531], [1, 0], [1, 3, 533], [1, 0], [1, 3, 535], [1, 0]],
    [[1, 3, 537], [1, 0], [1, 3, 539], [1, 0], [1, 3, 541], [1, 0], [1, 3, 543], [1, 0]],
    [[1, 3, 414], [1, 0], [1, 3, 547], [1, 0], [1, 3, 549], [1, 0], [1, 3, 551], [1, 0]],
    [[1, 3, 553], [1, 0], [1, 3, 555], [1, 0], [1, 3, 557], [1, 0], [1, 3, 559], [1, 0]],
    [[1, 3, 561], [1, 0], [1, 3, 563], [1, 0], [7, 3, 11365], [1, 3, 572], [1, 0], [1, 3, 410]],
    [[1, 3, 11366], [1, 0], [2, 3, 578], [1, 0], [1, 3, 384], [1, 3, 649], [1, 3, 652]],
    [[1, 3, 583], [1, 0], [1, 3, 585], [1, 0], [1, 3, 587], [1, 0], [1, 3, 589], [1, 0]],
    [[1, 3, 591], [1, 0], [97, 3, 104], [1, 3, 614], [1, 3, 106], [1, 3, 114], [1, 3, 633]],
    [[1, 3, 635], [1, 3, 641], [1, 3, 119], [1, 3, 121], [1, 0], [31, 3, 32, 774]],
    [[1, 3, 32, 775], [1, 3, 32, 778], [1, 3, 32, 808], [1, 3, 32, 771], [1, 3, 32, 779], [1, 0]],
    [[2, 3, 611], [1, 3, 108], [1, 3, 115], [1, 3, 120], [1, 3, 661], [1, 0], [91, 3, 768]],
    [[1, 3, 769], [1, 0], [1, 3, 787], [1, 3, 776, 769], [1, 3, 953], [1, 0], [9, 2], [1, 0]],
    [[32, 3, 881], [1, 0], [1, 3, 883], [1, 0], [1, 3, 697], [1, 0], [1, 3, 887], [1, 0], [1, 1]],
    [[2, 3, 32, 953], [1, 0], [3, 3, 59], [1, 3, 1011], [1, 1], [4, 3, 32, 769]],
    [[1, 3, 32, 776, 769], [1, 3, 940], [1, 3, 183], [1, 3, 941], [1, 3, 942], [1, 3, 943]],
    [[1, 1], [1, 3, 972], [1, 1], [1, 3, 973], [1, 3, 974], [1, 0], [1, 3, 945], [1, 3, 946]],
    [[1, 3, 947], [1, 3, 948], [1, 3, 949], [1, 3, 950], [1, 3, 951], [1, 3, 952], [1, 3, 953]],
    [[1, 3, 954], [1, 3, 955], [1, 3, 956], [1, 3, 957], [1, 3, 958], [1, 3, 959], [1, 3, 960]],
    [[1, 3, 961], [1, 1], [1, 3, 963], [1, 3, 964], [1, 3, 965], [1, 3, 966], [1, 3, 967]],
    [[1, 3, 968], [1, 3, 969], [1, 3, 970], [1, 3, 971], [1, 0], [35, 3, 983], [1, 3, 946]],
    [[1, 3, 952], [1, 3, 965], [1, 3, 973], [1, 3, 971], [1, 3, 966], [1, 3, 960], [1, 0]],
    [[1, 3, 985], [1, 0], [1, 3, 987], [1, 0], [1, 3, 989], [1, 0], [1, 3, 991], [1, 0]],
    [[1, 3, 993], [1, 0], [1, 3, 995], [1, 0], [1, 3, 997], [1, 0], [1, 3, 999], [1, 0]],
    [[1, 3, 1001], [1, 0], [1, 3, 1003], [1, 0], [1, 3, 1005], [1, 0], [1, 3, 1007], [1, 0]],
    [[1, 3, 954], [1, 3, 961], [1, 3, 963], [1, 0], [1, 3, 952], [1, 3, 949], [1, 0]],
    [[1, 3, 1016], [1, 0], [1, 3, 963], [1, 3, 1019], [1, 0], [2, 3, 891], [1, 3, 892]],
    [[1, 3, 893], [1, 3, 1104], [1, 3, 1105], [1, 3, 1106], [1, 3, 1107], [1, 3, 1108]],
    [[1, 3, 1109], [1, 3, 1110], [1, 3, 1111], [1, 3, 1112], [1, 3, 1113], [1, 3, 1114]],
    [[1, 3, 1115], [1, 3, 1116], [1, 3, 1117], [1, 3, 1118], [1, 3, 1119], [1, 3, 1072]],
    [[1, 3, 1073], [1, 3, 1074], [1, 3, 1075], [1, 3, 1076], [1, 3, 1077], [1, 3, 1078]],
    [[1, 3, 1079], [1, 3, 1080], [1, 3, 1081], [1, 3, 1082], [1, 3, 1083], [1, 3, 1084]],
    [[1, 3, 1085], [1, 3, 1086], [1, 3, 1087], [1, 3, 1088], [1, 3, 1089], [1, 3, 1090]],
    [[1, 3, 1091], [1, 3, 1092], [1, 3, 1093], [1, 3, 1094], [1, 3, 1095], [1, 3, 1096]],
    [[1, 3, 1097], [1, 3, 1098], [1, 3, 1099], [1, 3, 1100], [1, 3, 1101], [1, 3, 1102]],
    [[1, 3, 1103], [1, 0], [48, 3, 1121], [1, 0], [1, 3, 1123], [1, 0], [1, 3, 1125], [1, 0]],
    [[1, 3, 1127], [1, 0], [1, 3, 1129], [1, 0], [1, 3, 1131], [1, 0], [1, 3, 1133], [1, 0]],
    [[1, 3, 1135], [1, 0], [1, 3, 1137], [1, 0], [1, 3, 1139], [1, 0], [1, 3, 1141], [1, 0]],
    [[1, 3, 1143], [1, 0], [1, 3, 1145], [1, 0], [1, 3, 1147], [1, 0], [1, 3, 1149], [1, 0]],
    [[1, 3, 1151], [1, 0], [1, 3, 1153], [1, 0], [9, 3, 1163], [1, 0], [1, 3, 1165], [1, 0]],
    [[1, 3, 1167], [1, 0], [1, 3, 1169], [1, 0], [1, 3, 1171], [1, 0], [1, 3, 1173], [1, 0]],
    [[1, 3, 1175], [1, 0], [1, 3, 1177], [1, 0], [1, 3, 1179], [1, 0], [1, 3, 1181], [1, 0]],
    [[1, 3, 1183], [1, 0], [1, 3, 1185], [1, 0], [1, 3, 1187], [1, 0], [1, 3, 1189], [1, 0]],
    [[1, 3, 1191], [1, 0], [1, 3, 1193], [1, 0], [1, 3, 1195], [1, 0], [1, 3, 1197], [1, 0]],
    [[1, 3, 1199], [1, 0], [1, 3, 1201], [1, 0], [1, 3, 1203], [1, 0], [1, 3, 1205], [1, 0]],
    [[1, 3, 1207], [1, 0], [1, 3, 1209], [1, 0], [1, 3, 1211], [1, 0], [1, 3, 1213], [1, 0]],
    [[1, 3, 1215], [1, 0], [1, 3, 1231], [1, 3, 1218], [1, 0], [1, 3, 1220], [1, 0], [1, 3, 1222]],
    [[1, 0], [1, 3, 1224], [1, 0], [1, 3, 1226], [1, 0], [1, 3, 1228], [1, 0], [1, 3, 1230]],
    [[1, 0], [2, 3, 1233], [1, 0], [1, 3, 1235], [1, 0], [1, 3, 1237], [1, 0], [1, 3, 1239]],
    [[1, 0], [1, 3, 1241], [1, 0], [1, 3, 1243], [1, 0], [1, 3, 1245], [1, 0], [1, 3, 1247]],
    [[1, 0], [1, 3, 1249], [1, 0], [1, 3, 1251], [1, 0], [1, 3, 1253], [1, 0], [1, 3, 1255]],
    [[1, 0], [1, 3, 1257], [1, 0], [1, 3, 1259], [1, 0], [1, 3, 1261], [1, 0], [1, 3, 1263]],
    [[1, 0], [1, 3, 1265], [1, 0], [1, 3, 1267], [1, 0], [1, 3, 1269], [1, 0], [1, 3, 1271]],
    [[1, 0], [1, 3, 1273], [1, 0], [1, 3, 1275], [1, 0], [1, 3, 1277], [1, 0], [1, 3, 1279]],
    [[1, 0], [1, 3, 1281], [1, 0], [1, 3, 1283], [1, 0], [1, 3, 1285], [1, 0], [1, 3, 1287]],
    [[1, 0], [1, 3, 1289], [1, 0], [1, 3, 1291], [1, 0], [1, 3, 1293], [1, 0], [1, 3, 1295]],
    [[1, 0], [1, 3, 1297], [1, 0], [1, 3, 1299], [1, 0], [1, 3, 1301], [1, 0], [1, 3, 1303]],
    [[1, 0], [1, 3, 1305], [1, 0], [1, 3, 1307], [1, 0], [1, 3, 1309], [1, 0], [1, 3, 1311]],
    [[1, 0], [1, 3, 1313], [1, 0], [1, 3, 1315], [1, 0], [1, 3, 1317], [1, 0], [1, 3, 1319]],
    [[1, 0], [1, 3, 1321], [1, 0], [1, 3, 1323], [1, 0], [1, 3, 1325], [1, 0], [1, 3, 1327]],
    [[1, 0], [1, 1], [1, 3, 1377], [1, 3, 1378], [1, 3, 1379], [1, 3, 1380], [1, 3, 1381]],
    [[1, 3, 1382], [1, 3, 1383], [1, 3, 1384], [1, 3, 1385], [1, 3, 1386], [1, 3, 1387]],
    [[1, 3, 1388], [1, 3, 1389], [1, 3, 1390], [1, 3, 1391], [1, 3, 1392], [1, 3, 1393]],
    [[1, 3, 1394], [1, 3, 1395], [1, 3, 1396], [1, 3, 1397], [1, 3, 1398], [1, 3, 1399]],
    [[1, 3, 1400], [1, 3, 1401], [1, 3, 1402], [1, 3, 1403], [1, 3, 1404], [1, 3, 1405]],
    [[1, 3, 1406], [1, 3, 1407], [1, 3, 1408], [1, 3, 1409], [1, 3, 1410], [1, 3, 1411]],
    [[1, 3, 1412], [1, 3, 1413], [1, 3, 1414], [1, 1], [2, 0], [46, 3, 1381, 1410], [1, 0]],
    [[3, 1], [2, 0], [3, 1], [1, 0], [55, 1], [8, 0], [27, 1], [4, 0], [6, 1], [17, 0], [22, 1]],
    [[1, 0], [88, 3, 1575, 1652], [1, 3, 1608, 1652], [1, 3, 1735, 1652], [1, 3, 1610, 1652]],
    [[1, 0], [100, 1], [1, 0], [48, 1], [2, 0], [59, 1], [2, 0], [101, 1], [14, 0], [59, 1]],
    [[2, 0], [49, 1], [2, 0], [15, 1], [1, 0], [28, 1], [2, 0], [1, 1], [1, 0], [11, 1], [5, 0]],
    [[32, 1], [7, 0], [75, 1], [1, 0], [117, 3, 2325, 2364], [1, 3, 2326, 2364]],
    [[1, 3, 2327, 2364], [1, 3, 2332, 2364], [1, 3, 2337, 2364], [1, 3, 2338, 2364]],
    [[1, 3, 2347, 2364], [1, 3, 2351, 2364], [1, 0], [36, 1], [1, 0], [8, 1], [2, 0], [2, 1]],
    [[2, 0], [22, 1], [1, 0], [7, 1], [1, 0], [1, 1], [3, 0], [4, 1], [2, 0], [9, 1], [2, 0]],
    [[2, 1], [2, 0], [4, 1], [8, 0], [1, 1], [4, 3, 2465, 2492], [1, 3, 2466, 2492], [1, 1]],
    [[1, 3, 2479, 2492], [1, 0], [4, 1], [2, 0], [25, 1], [2, 0], [3, 1], [1, 0], [6, 1], [4, 0]],
    [[2, 1], [2, 0], [22, 1], [1, 0], [7, 1], [1, 0], [1, 3, 2610, 2620], [1, 1], [1, 0]],
    [[1, 3, 2616, 2620], [1, 1], [1, 0], [2, 1], [2, 0], [1, 1], [1, 0], [5, 1], [4, 0], [2, 1]],
    [[2, 0], [3, 1], [3, 0], [1, 1], [7, 3, 2582, 2620], [1, 3, 2583, 2620], [1, 3, 2588, 2620]],
    [[1, 0], [1, 1], [1, 3, 2603, 2620], [1, 1], [7, 0], [17, 1], [10, 0], [3, 1], [1, 0], [9, 1]],
    [[1, 0], [3, 1], [1, 0], [22, 1], [1, 0], [7, 1], [1, 0], [2, 1], [1, 0], [5, 1], [2, 0]],
    [[10, 1], [1, 0], [3, 1], [1, 0], [3, 1], [2, 0], [1, 1], [15, 0], [4, 1], [2, 0], [12, 1]],
    [[7, 0], [7, 1], [1, 0], [3, 1], [1, 0], [8, 1], [2, 0], [2, 1], [2, 0], [22, 1], [1, 0]],
    [[7, 1], [1, 0], [2, 1], [1, 0], [5, 1], [2, 0], [9, 1], [2, 0], [2, 1], [2, 0], [3, 1]],
    [[7, 0], [3, 1], [4, 3, 2849, 2876], [1, 3, 2850, 2876], [1, 1], [1, 0], [5, 1], [2, 0]],
    [[18, 1], [10, 0], [2, 1], [1, 0], [6, 1], [3, 0], [3, 1], [1, 0], [4, 1], [3, 0], [2, 1]],
    [[1, 0], [1, 1], [1, 0], [2, 1], [3, 0], [2, 1], [3, 0], [3, 1], [3, 0], [12, 1], [4, 0]],
    [[5, 1], [3, 0], [3, 1], [1, 0], [4, 1], [2, 0], [1, 1], [6, 0], [1, 1], [14, 0], [21, 1]],
    [[5, 0], [13, 1], [1, 0], [3, 1], [1, 0], [23, 1], [1, 0], [16, 1], [2, 0], [9, 1], [1, 0]],
    [[3, 1], [1, 0], [4, 1], [7, 0], [2, 1], [1, 0], [3, 1], [1, 0], [2, 1], [2, 0], [4, 1]],
    [[2, 0], [10, 1], [7, 0], [22, 1], [1, 0], [3, 1], [1, 0], [23, 1], [1, 0], [10, 1], [1, 0]],
    [[5, 1], [2, 0], [9, 1], [1, 0], [3, 1], [1, 0], [4, 1], [7, 0], [2, 1], [5, 0], [3, 1]],
    [[1, 0], [4, 1], [2, 0], [10, 1], [1, 0], [3, 1], [12, 0], [13, 1], [1, 0], [3, 1], [1, 0]],
    [[51, 1], [1, 0], [3, 1], [1, 0], [6, 1], [4, 0], [16, 1], [2, 0], [26, 1], [1, 0], [3, 1]],
    [[1, 0], [18, 1], [3, 0], [24, 1], [1, 0], [9, 1], [1, 0], [1, 1], [2, 0], [7, 1], [3, 0]],
    [[1, 1], [4, 0], [6, 1], [1, 0], [1, 1], [1, 0], [8, 1], [6, 0], [10, 1], [2, 0], [3, 1]],
    [[12, 0], [50, 3, 3661, 3634], [1, 0], [7, 1], [4, 0], [29, 1], [37, 0], [2, 1], [1, 0]],
    [[1, 1], [1, 0], [5, 1], [1, 0], [24, 1], [1, 0], [1, 1], [1, 0], [12, 3, 3789, 3762], [1, 0]],
    [[10, 1], [2, 0], [5, 1], [1, 0], [1, 1], [1, 0], [7, 1], [1, 0], [10, 1], [2, 3, 3755, 3737]],
    [[1, 3, 3755, 3745], [1, 0], [2, 1], [32, 0], [12, 3, 3851], [1, 0], [54, 3, 3906, 4023]],
    [[1, 0], [4, 1], [1, 0], [4, 3, 3916, 4023], [1, 0], [4, 3, 3921, 4023], [1, 0]],
    [[4, 3, 3926, 4023], [1, 0], [4, 3, 3931, 4023], [1, 0], [12, 3, 3904, 4021], [1, 0], [3, 1]],
    [[4, 0], [2, 3, 3953, 3954], [1, 0], [1, 3, 3953, 3956], [1, 3, 4018, 3968]],
    [[1, 3, 4018, 3953, 3968], [1, 3, 4019, 3968], [1, 3, 4019, 3953, 3968], [1, 0]],
    [[7, 3, 3953, 3968], [1, 0], [17, 3, 3986, 4023], [1, 0], [4, 1], [1, 0], [4, 3, 3996, 4023]],
    [[1, 0], [4, 3, 4001, 4023], [1, 0], [4, 3, 4006, 4023], [1, 0], [4, 3, 4011, 4023], [1, 0]],
    [[12, 3, 3984, 4021], [1, 0], [3, 1], [1, 0], [15, 1], [1, 0], [13, 1], [37, 0]],
    [[160, 3, 11520], [1, 3, 11521], [1, 3, 11522], [1, 3, 11523], [1, 3, 11524], [1, 3, 11525]],
    [[1, 3, 11526], [1, 3, 11527], [1, 3, 11528], [1, 3, 11529], [1, 3, 11530], [1, 3, 11531]],
    [[1, 3, 11532], [1, 3, 11533], [1, 3, 11534], [1, 3, 11535], [1, 3, 11536], [1, 3, 11537]],
    [[1, 3, 11538], [1, 3, 11539], [1, 3, 11540], [1, 3, 11541], [1, 3, 11542], [1, 3, 11543]],
    [[1, 3, 11544], [1, 3, 11545], [1, 3, 11546], [1, 3, 11547], [1, 3, 11548], [1, 3, 11549]],
    [[1, 3, 11550], [1, 3, 11551], [1, 3, 11552], [1, 3, 11553], [1, 3, 11554], [1, 3, 11555]],
    [[1, 3, 11556], [1, 3, 11557], [1, 1], [1, 3, 11559], [1, 1], [5, 3, 11565], [1, 1], [2, 0]],
    [[44, 3, 4316], [1, 0], [98, 2], [2, 0], [232, 1], [1, 0], [4, 1], [2, 0], [7, 1], [1, 0]],
    [[1, 1], [1, 0], [4, 1], [2, 0], [41, 1], [1, 0], [4, 1], [2, 0], [33, 1], [1, 0], [4, 1]],
    [[2, 0], [7, 1], [1, 0], [1, 1], [1, 0], [4, 1], [2, 0], [15, 1], [1, 0], [57, 1], [1, 0]],
    [[4, 1], [2, 0], [67, 1], [2, 0], [32, 1], [3, 0], [26, 1], [6, 0], [86, 1], [2, 3, 5104]],
    [[1, 3, 5105], [1, 3, 5106], [1, 3, 5107], [1, 3, 5108], [1, 3, 5109], [1, 1], [2, 0]],
    [[640, 1], [1, 0], [28, 1], [3, 0], [89, 1], [7, 0], [22, 1], [9, 0], [24, 1], [9, 0]],
    [[20, 1], [12, 0], [13, 1], [1, 0], [3, 1], [1, 0], [2, 1], [12, 0], [52, 2], [2, 0], [40, 1]],
    [[2, 0], [10, 1], [6, 0], [10, 1], [6, 0], [11, 2], [5, 0], [10, 1], [6, 0], [89, 1], [7, 0]],
    [[43, 1], [5, 0], [70, 1], [10, 0], [31, 1], [1, 0], [12, 1], [4, 0], [12, 1], [4, 0], [1, 1]],
    [[3, 0], [42, 1], [2, 0], [5, 1], [11, 0], [44, 1], [4, 0], [26, 1], [6, 0], [11, 1], [3, 0]],
    [[62, 1], [2, 0], [65, 1], [1, 0], [29, 1], [2, 0], [11, 1], [6, 0], [10, 1], [6, 0], [14, 1]],
    [[2, 0], [46, 1], [2, 0], [12, 1], [20, 0], [77, 1], [1, 0], [166, 1], [8, 0], [60, 1]],
    [[3, 0], [15, 1], [3, 0], [51, 3, 1074], [1, 3, 1076], [1, 3, 1086], [1, 3, 1089]],
    [[1, 3, 1090], [2, 3, 1098], [1, 3, 1123], [1, 3, 42571], [1, 3, 7306], [1, 0], [1, 1]],
    [[5, 3, 4304], [1, 3, 4305], [1, 3, 4306], [1, 3, 4307], [1, 3, 4308], [1, 3, 4309]],
    [[1, 3, 4310], [1, 3, 4311], [1, 3, 4312], [1, 3, 4313], [1, 3, 4314], [1, 3, 4315]],
    [[1, 3, 4316], [1, 3, 4317], [1, 3, 4318], [1, 3, 4319], [1, 3, 4320], [1, 3, 4321]],
    [[1, 3, 4322], [1, 3, 4323], [1, 3, 4324], [1, 3, 4325], [1, 3, 4326], [1, 3, 4327]],
    [[1, 3, 4328], [1, 3, 4329], [1, 3, 4330], [1, 3, 4331], [1, 3, 4332], [1, 3, 4333]],
    [[1, 3, 4334], [1, 3, 4335], [1, 3, 4336], [1, 3, 4337], [1, 3, 4338], [1, 3, 4339]],
    [[1, 3, 4340], [1, 3, 4341], [1, 3, 4342], [1, 3, 4343], [1, 3, 4344], [1, 3, 4345]],
    [[1, 3, 4346], [1, 1], [2, 3, 4349], [1, 3, 4350], [1, 3, 4351], [1, 0], [8, 1], [8, 0]],
    [[43, 1], [5, 0], [44, 3, 97], [1, 3, 230], [1, 3, 98], [1, 0], [1, 3, 100], [1, 3, 101]],
    [[1, 3, 477], [1, 3, 103], [1, 3, 104], [1, 3, 105], [1, 3, 106], [1, 3, 107], [1, 3, 108]],
    [[1, 3, 109], [1, 3, 110], [1, 0], [1, 3, 111], [1, 3, 547], [1, 3, 112], [1, 3, 114]],
    [[1, 3, 116], [1, 3, 117], [1, 3, 119], [1, 3, 97], [1, 3, 592], [1, 3, 593], [1, 3, 7426]],
    [[1, 3, 98], [1, 3, 100], [1, 3, 101], [1, 3, 601], [1, 3, 603], [1, 3, 604], [1, 3, 103]],
    [[1, 0], [1, 3, 107], [1, 3, 109], [1, 3, 331], [1, 3, 111], [1, 3, 596], [1, 3, 7446]],
    [[1, 3, 7447], [1, 3, 112], [1, 3, 116], [1, 3, 117], [1, 3, 7453], [1, 3, 623], [1, 3, 118]],
    [[1, 3, 7461], [1, 3, 946], [1, 3, 947], [1, 3, 948], [1, 3, 966], [1, 3, 967], [1, 3, 105]],
    [[1, 3, 114], [1, 3, 117], [1, 3, 118], [1, 3, 946], [1, 3, 947], [1, 3, 961], [1, 3, 966]],
    [[1, 3, 967], [1, 0], [13, 3, 1085], [1, 0], [34, 3, 594], [1, 3, 99], [1, 3, 597]],
    [[1, 3, 240], [1, 3, 604], [1, 3, 102], [1, 3, 607], [1, 3, 609], [1, 3, 613], [1, 3, 616]],
    [[1, 3, 617], [1, 3, 618], [1, 3, 7547], [1, 3, 669], [1, 3, 621], [1, 3, 7557], [1, 3, 671]],
    [[1, 3, 625], [1, 3, 624], [1, 3, 626], [1, 3, 627], [1, 3, 628], [1, 3, 629], [1, 3, 632]],
    [[1, 3, 642], [1, 3, 643], [1, 3, 427], [1, 3, 649], [1, 3, 650], [1, 3, 7452], [1, 3, 651]],
    [[1, 3, 652], [1, 3, 122], [1, 3, 656], [1, 3, 657], [1, 3, 658], [1, 3, 952], [1, 0]],
    [[64, 3, 7681], [1, 0], [1, 3, 7683], [1, 0], [1, 3, 7685], [1, 0], [1, 3, 7687], [1, 0]],
    [[1, 3, 7689], [1, 0], [1, 3, 7691], [1, 0], [1, 3, 7693], [1, 0], [1, 3, 7695], [1, 0]],
    [[1, 3, 7697], [1, 0], [1, 3, 7699], [1, 0], [1, 3, 7701], [1, 0], [1, 3, 7703], [1, 0]],
    [[1, 3, 7705], [1, 0], [1, 3, 7707], [1, 0], [1, 3, 7709], [1, 0], [1, 3, 7711], [1, 0]],
    [[1, 3, 7713], [1, 0], [1, 3, 7715], [1, 0], [1, 3, 7717], [1, 0], [1, 3, 7719], [1, 0]],
    [[1, 3, 7721], [1, 0], [1, 3, 7723], [1, 0], [1, 3, 7725], [1, 0], [1, 3, 7727], [1, 0]],
    [[1, 3, 7729], [1, 0], [1, 3, 7731], [1, 0], [1, 3, 7733], [1, 0], [1, 3, 7735], [1, 0]],
    [[1, 3, 7737], [1, 0], [1, 3, 7739], [1, 0], [1, 3, 7741], [1, 0], [1, 3, 7743], [1, 0]],
    [[1, 3, 7745], [1, 0], [1, 3, 7747], [1, 0], [1, 3, 7749], [1, 0], [1, 3, 7751], [1, 0]],
    [[1, 3, 7753], [1, 0], [1, 3, 7755], [1, 0], [1, 3, 7757], [1, 0], [1, 3, 7759], [1, 0]],
    [[1, 3, 7761], [1, 0], [1, 3, 7763], [1, 0], [1, 3, 7765], [1, 0], [1, 3, 7767], [1, 0]],
    [[1, 3, 7769], [1, 0], [1, 3, 7771], [1, 0], [1, 3, 7773], [1, 0], [1, 3, 7775], [1, 0]],
    [[1, 3, 7777], [1, 0], [1, 3, 7779], [1, 0], [1, 3, 7781], [1, 0], [1, 3, 7783], [1, 0]],
    [[1, 3, 7785], [1, 0], [1, 3, 7787], [1, 0], [1, 3, 7789], [1, 0], [1, 3, 7791], [1, 0]],
    [[1, 3, 7793], [1, 0], [1, 3, 7795], [1, 0], [1, 3, 7797], [1, 0], [1, 3, 7799], [1, 0]],
    [[1, 3, 7801], [1, 0], [1, 3, 7803], [1, 0], [1, 3, 7805], [1, 0], [1, 3, 7807], [1, 0]],
    [[1, 3, 7809], [1, 0], [1, 3, 7811], [1, 0], [1, 3, 7813], [1, 0], [1, 3, 7815], [1, 0]],
    [[1, 3, 7817], [1, 0], [1, 3, 7819], [1, 0], [1, 3, 7821], [1, 0], [1, 3, 7823], [1, 0]],
    [[1, 3, 7825], [1, 0], [1, 3, 7827], [1, 0], [1, 3, 7829], [1, 0], [5, 3, 97, 702]],
    [[1, 3, 7777], [1, 0], [2, 3, 223], [1, 0], [1, 3, 7841], [1, 0], [1, 3, 7843], [1, 0]],
    [[1, 3, 7845], [1, 0], [1, 3, 7847], [1, 0], [1, 3, 7849], [1, 0], [1, 3, 7851], [1, 0]],
    [[1, 3, 7853], [1, 0], [1, 3, 7855], [1, 0], [1, 3, 7857], [1, 0], [1, 3, 7859], [1, 0]],
    [[1, 3, 7861], [1, 0], [1, 3, 7863], [1, 0], [1, 3, 7865], [1, 0], [1, 3, 7867], [1, 0]],
    [[1, 3, 7869], [1, 0], [1, 3, 7871], [1, 0], [1, 3, 7873], [1, 0], [1, 3, 7875], [1, 0]],
    [[1, 3, 7877], [1, 0], [1, 3, 7879], [1, 0], [1, 3, 7881], [1, 0], [1, 3, 7883], [1, 0]],
    [[1, 3, 7885], [1, 0], [1, 3, 7887], [1, 0], [1, 3, 7889], [1, 0], [1, 3, 7891], [1, 0]],
    [[1, 3, 7893], [1, 0], [1, 3, 7895], [1, 0], [1, 3, 7897], [1, 0], [1, 3, 7899], [1, 0]],
    [[1, 3, 7901], [1, 0], [1, 3, 7903], [1, 0], [1, 3, 7905], [1, 0], [1, 3, 7907], [1, 0]],
    [[1, 3, 7909], [1, 0], [1, 3, 7911], [1, 0], [1, 3, 7913], [1, 0], [1, 3, 7915], [1, 0]],
    [[1, 3, 7917], [1, 0], [1, 3, 7919], [1, 0], [1, 3, 7921], [1, 0], [1, 3, 7923], [1, 0]],
    [[1, 3, 7925], [1, 0], [1, 3, 7927], [1, 0], [1, 3, 7929], [1, 0], [1, 3, 7931], [1, 0]],
    [[1, 3, 7933], [1, 0], [1, 3, 7935], [1, 0], [9, 3, 7936], [1, 3, 7937], [1, 3, 7938]],
    [[1, 3, 7939], [1, 3, 7940], [1, 3, 7941], [1, 3, 7942], [1, 3, 7943], [1, 0], [6, 1]],
    [[2, 3, 7952], [1, 3, 7953], [1, 3, 7954], [1, 3, 7955], [1, 3, 7956], [1, 3, 7957], [1, 1]],
    [[2, 0], [8, 3, 7968], [1, 3, 7969], [1, 3, 7970], [1, 3, 7971], [1, 3, 7972], [1, 3, 7973]],
    [[1, 3, 7974], [1, 3, 7975], [1, 0], [8, 3, 7984], [1, 3, 7985], [1, 3, 7986], [1, 3, 7987]],
    [[1, 3, 7988], [1, 3, 7989], [1, 3, 7990], [1, 3, 7991], [1, 0], [6, 1], [2, 3, 8000]],
    [[1, 3, 8001], [1, 3, 8002], [1, 3, 8003], [1, 3, 8004], [1, 3, 8005], [1, 1], [2, 0], [8, 1]],
    [[1, 3, 8017], [1, 1], [1, 3, 8019], [1, 1], [1, 3, 8021], [1, 1], [1, 3, 8023], [1, 0]],
    [[8, 3, 8032], [1, 3, 8033], [1, 3, 8034], [1, 3, 8035], [1, 3, 8036], [1, 3, 8037]],
    [[1, 3, 8038], [1, 3, 8039], [1, 0], [1, 3, 940], [1, 0], [1, 3, 941], [1, 0], [1, 3, 942]],
    [[1, 0], [1, 3, 943], [1, 0], [1, 3, 972], [1, 0], [1, 3, 973], [1, 0], [1, 3, 974], [1, 1]],
    [[2, 3, 7936, 953], [1, 3, 7937, 953], [1, 3, 7938, 953], [1, 3, 7939, 953]],
    [[1, 3, 7940, 953], [1, 3, 7941, 953], [1, 3, 7942, 953], [1, 3, 7943, 953]],
    [[1, 3, 7936, 953], [1, 3, 7937, 953], [1, 3, 7938, 953], [1, 3, 7939, 953]],
    [[1, 3, 7940, 953], [1, 3, 7941, 953], [1, 3, 7942, 953], [1, 3, 7943, 953]],
    [[1, 3, 7968, 953], [1, 3, 7969, 953], [1, 3, 7970, 953], [1, 3, 7971, 953]],
    [[1, 3, 7972, 953], [1, 3, 7973, 953], [1, 3, 7974, 953], [1, 3, 7975, 953]],
    [[1, 3, 7968, 953], [1, 3, 7969, 953], [1, 3, 7970, 953], [1, 3, 7971, 953]],
    [[1, 3, 7972, 953], [1, 3, 7973, 953], [1, 3, 7974, 953], [1, 3, 7975, 953]],
    [[1, 3, 8032, 953], [1, 3, 8033, 953], [1, 3, 8034, 953], [1, 3, 8035, 953]],
    [[1, 3, 8036, 953], [1, 3, 8037, 953], [1, 3, 8038, 953], [1, 3, 8039, 953]],
    [[1, 3, 8032, 953], [1, 3, 8033, 953], [1, 3, 8034, 953], [1, 3, 8035, 953]],
    [[1, 3, 8036, 953], [1, 3, 8037, 953], [1, 3, 8038, 953], [1, 3, 8039, 953], [1, 0]],
    [[2, 3, 8048, 953], [1, 3, 945, 953], [1, 3, 940, 953], [1, 1], [1, 0], [1, 3, 8118, 953]],
    [[1, 3, 8112], [1, 3, 8113], [1, 3, 8048], [1, 3, 940], [1, 3, 945, 953], [1, 3, 32, 787]],
    [[1, 3, 953], [1, 3, 32, 787], [1, 3, 32, 834], [1, 3, 32, 776, 834], [1, 3, 8052, 953]],
    [[1, 3, 951, 953], [1, 3, 942, 953], [1, 1], [1, 0], [1, 3, 8134, 953], [1, 3, 8050]],
    [[1, 3, 941], [1, 3, 8052], [1, 3, 942], [1, 3, 951, 953], [1, 3, 32, 787, 768]],
    [[1, 3, 32, 787, 769], [1, 3, 32, 787, 834], [1, 0], [3, 3, 912], [1, 1], [2, 0]],
    [[2, 3, 8144], [1, 3, 8145], [1, 3, 8054], [1, 3, 943], [1, 1], [1, 3, 32, 788, 768]],
    [[1, 3, 32, 788, 769], [1, 3, 32, 788, 834], [1, 0], [3, 3, 944], [1, 0], [4, 3, 8160]],
    [[1, 3, 8161], [1, 3, 8058], [1, 3, 973], [1, 3, 8165], [1, 3, 32, 776, 768]],
    [[1, 3, 32, 776, 769], [1, 3, 96], [1, 1], [2, 3, 8060, 953], [1, 3, 969, 953]],
    [[1, 3, 974, 953], [1, 1], [1, 0], [1, 3, 8182, 953], [1, 3, 8056], [1, 3, 972], [1, 3, 8060]],
    [[1, 3, 974], [1, 3, 969, 953], [1, 3, 32, 769], [1, 3, 32, 788], [1, 1], [1, 3, 32], [11, 2]],
    [[1, 0], [2, 1], [2, 0], [1, 3, 8208], [1, 0], [5, 3, 32, 819], [1, 0], [12, 1], [3, 0]],
    [[1, 1], [7, 3, 32], [1, 0], [3, 3, 8242, 8242], [1, 3, 8242, 8242, 8242], [1, 0]],
    [[1, 3, 8245, 8245], [1, 3, 8245, 8245, 8245], [1, 0], [4, 3, 33, 33], [1, 0]],
    [[1, 3, 32, 773], [1, 0], [8, 3, 63, 63], [1, 3, 63, 33], [1, 3, 33, 63], [1, 0]],
    [[13, 3, 8242, 8242, 8242, 8242], [1, 0], [7, 3, 32], [1, 2], [5, 1], [5, 2], [6, 3, 48]],
    [[1, 3, 105], [1, 1], [2, 3, 52], [1, 3, 53], [1, 3, 54], [1, 3, 55], [1, 3, 56], [1, 3, 57]],
    [[1, 3, 43], [1, 3, 8722], [1, 3, 61], [1, 3, 40], [1, 3, 41], [1, 3, 110], [1, 3, 48]],
    [[1, 3, 49], [1, 3, 50], [1, 3, 51], [1, 3, 52], [1, 3, 53], [1, 3, 54], [1, 3, 55]],
    [[1, 3, 56], [1, 3, 57], [1, 3, 43], [1, 3, 8722], [1, 3, 61], [1, 3, 40], [1, 3, 41], [1, 1]],
    [[1, 3, 97], [1, 3, 101], [1, 3, 111], [1, 3, 120], [1, 3, 601], [1, 3, 104], [1, 3, 107]],
    [[1, 3, 108], [1, 3, 109], [1, 3, 110], [1, 3, 112], [1, 3, 115], [1, 3, 116], [1, 1], [3, 0]],
    [[8, 3, 114, 115], [1, 0], [25, 1], [14, 0], [33, 1], [15, 3, 97, 47, 99]],
    [[1, 3, 97, 47, 115], [1, 3, 99], [1, 3, 176, 99], [1, 0], [1, 3, 99, 47, 111]],
    [[1, 3, 99, 47, 117], [1, 3, 603], [1, 0], [1, 3, 176, 102], [1, 3, 103], [1, 3, 104]],
    [[4, 3, 295], [1, 3, 105], [2, 3, 108], [2, 0], [1, 3, 110], [1, 3, 110, 111], [1, 0]],
    [[2, 3, 112], [1, 3, 113], [1, 3, 114], [3, 0], [2, 3, 115, 109], [1, 3, 116, 101, 108]],
    [[1, 3, 116, 109], [1, 0], [1, 3, 122], [1, 0], [1, 3, 969], [1, 0], [1, 3, 122], [1, 0]],
    [[1, 3, 107], [1, 3, 229], [1, 3, 98], [1, 3, 99], [1, 0], [1, 3, 101], [2, 3, 102]],
    [[1, 3, 8526], [1, 3, 109], [1, 3, 111], [1, 3, 1488], [1, 3, 1489], [1, 3, 1490]],
    [[1, 3, 1491], [1, 3, 105], [1, 0], [1, 3, 102, 97, 120], [1, 3, 960], [1, 3, 947]],
    [[2, 3, 960], [1, 3, 8721], [1, 0], [4, 3, 100], [2, 3, 101], [1, 3, 105], [1, 3, 106]],
    [[1, 0], [6, 3, 49, 8260, 55], [1, 3, 49, 8260, 57], [1, 3, 49, 8260, 49, 48]],
    [[1, 3, 49, 8260, 51], [1, 3, 50, 8260, 51], [1, 3, 49, 8260, 53], [1, 3, 50, 8260, 53]],
    [[1, 3, 51, 8260, 53], [1, 3, 52, 8260, 53], [1, 3, 49, 8260, 54], [1, 3, 53, 8260, 54]],
    [[1, 3, 49, 8260, 56], [1, 3, 51, 8260, 56], [1, 3, 53, 8260, 56], [1, 3, 55, 8260, 56]],
    [[1, 3, 49, 8260], [1, 3, 105], [1, 3, 105, 105], [1, 3, 105, 105, 105], [1, 3, 105, 118]],
    [[1, 3, 118], [1, 3, 118, 105], [1, 3, 118, 105, 105], [1, 3, 118, 105, 105, 105]],
    [[1, 3, 105, 120], [1, 3, 120], [1, 3, 120, 105], [1, 3, 120, 105, 105], [1, 3, 108]],
    [[1, 3, 99], [1, 3, 100], [1, 3, 109], [1, 3, 105], [1, 3, 105, 105], [1, 3, 105, 105, 105]],
    [[1, 3, 105, 118], [1, 3, 118], [1, 3, 118, 105], [1, 3, 118, 105, 105]],
    [[1, 3, 118, 105, 105, 105], [1, 3, 105, 120], [1, 3, 120], [1, 3, 120, 105]],
    [[1, 3, 120, 105, 105], [1, 3, 108], [1, 3, 99], [1, 3, 100], [1, 3, 109], [1, 0]],
    [[3, 3, 8580], [1, 0], [5, 3, 48, 8260, 51], [1, 0], [2, 1], [4, 0], [156, 3, 8747, 8747]],
    [[1, 3, 8747, 8747, 8747], [1, 0], [1, 3, 8750, 8750], [1, 3, 8750, 8750, 8750], [1, 0]],
    [[248, 3, 12296], [1, 3, 12297], [1, 0], [255, 1], [22, 0], [11, 1], [21, 3, 49], [1, 3, 50]],
    [[1, 3, 51], [1, 3, 52], [1, 3, 53], [1, 3, 54], [1, 3, 55], [1, 3, 56], [1, 3, 57]],
    [[1, 3, 49, 48], [1, 3, 49, 49], [1, 3, 49, 50], [1, 3, 49, 51], [1, 3, 49, 52]],
    [[1, 3, 49, 53], [1, 3, 49, 54], [1, 3, 49, 55], [1, 3, 49, 56], [1, 3, 49, 57]],
    [[1, 3, 50, 48], [1, 3, 40, 49, 41], [1, 3, 40, 50, 41], [1, 3, 40, 51, 41]],
    [[1, 3, 40, 52, 41], [1, 3, 40, 53, 41], [1, 3, 40, 54, 41], [1, 3, 40, 55, 41]],
    [[1, 3, 40, 56, 41], [1, 3, 40, 57, 41], [1, 3, 40, 49, 48, 41], [1, 3, 40, 49, 49, 41]],
    [[1, 3, 40, 49, 50, 41], [1, 3, 40, 49, 51, 41], [1, 3, 40, 49, 52, 41]],
    [[1, 3, 40, 49, 53, 41], [1, 3, 40, 49, 54, 41], [1, 3, 40, 49, 55, 41]],
    [[1, 3, 40, 49, 56, 41], [1, 3, 40, 49, 57, 41], [1, 3, 40, 50, 48, 41], [1, 1]],
    [[20, 3, 40, 97, 41], [1, 3, 40, 98, 41], [1, 3, 40, 99, 41], [1, 3, 40, 100, 41]],
    [[1, 3, 40, 101, 41], [1, 3, 40, 102, 41], [1, 3, 40, 103, 41], [1, 3, 40, 104, 41]],
    [[1, 3, 40, 105, 41], [1, 3, 40, 106, 41], [1, 3, 40, 107, 41], [1, 3, 40, 108, 41]],
    [[1, 3, 40, 109, 41], [1, 3, 40, 110, 41], [1, 3, 40, 111, 41], [1, 3, 40, 112, 41]],
    [[1, 3, 40, 113, 41], [1, 3, 40, 114, 41], [1, 3, 40, 115, 41], [1, 3, 40, 116, 41]],
    [[1, 3, 40, 117, 41], [1, 3, 40, 118, 41], [1, 3, 40, 119, 41], [1, 3, 40, 120, 41]],
    [[1, 3, 40, 121, 41], [1, 3, 40, 122, 41], [1, 3, 97], [1, 3, 98], [1, 3, 99], [1, 3, 100]],
    [[1, 3, 101], [1, 3, 102], [1, 3, 103], [1, 3, 104], [1, 3, 105], [1, 3, 106], [1, 3, 107]],
    [[1, 3, 108], [1, 3, 109], [1, 3, 110], [1, 3, 111], [1, 3, 112], [1, 3, 113], [1, 3, 114]],
    [[1, 3, 115], [1, 3, 116], [1, 3, 117], [1, 3, 118], [1, 3, 119], [1, 3, 120], [1, 3, 121]],
    [[1, 3, 122], [1, 3, 97], [1, 3, 98], [1, 3, 99], [1, 3, 100], [1, 3, 101], [1, 3, 102]],
    [[1, 3, 103], [1, 3, 104], [1, 3, 105], [1, 3, 106], [1, 3, 107], [1, 3, 108], [1, 3, 109]],
    [[1, 3, 110], [1, 3, 111], [1, 3, 112], [1, 3, 113], [1, 3, 114], [1, 3, 115], [1, 3, 116]],
    [[1, 3, 117], [1, 3, 118], [1, 3, 119], [1, 3, 120], [1, 3, 121], [1, 3, 122], [1, 3, 48]],
    [[1, 0], [1313, 3, 8747, 8747, 8747, 8747], [1, 0], [103, 3, 58, 58, 61], [1, 3, 61, 61]],
    [[1, 3, 61, 61, 61], [1, 0], [101, 3, 10973, 824], [1, 0], [151, 1], [2, 0], [138, 3, 11312]],
    [[1, 3, 11313], [1, 3, 11314], [1, 3, 11315], [1, 3, 11316], [1, 3, 11317], [1, 3, 11318]],
    [[1, 3, 11319], [1, 3, 11320], [1, 3, 11321], [1, 3, 11322], [1, 3, 11323], [1, 3, 11324]],
    [[1, 3, 11325], [1, 3, 11326], [1, 3, 11327], [1, 3, 11328], [1, 3, 11329], [1, 3, 11330]],
    [[1, 3, 11331], [1, 3, 11332], [1, 3, 11333], [1, 3, 11334], [1, 3, 11335], [1, 3, 11336]],
    [[1, 3, 11337], [1, 3, 11338], [1, 3, 11339], [1, 3, 11340], [1, 3, 11341], [1, 3, 11342]],
    [[1, 3, 11343], [1, 3, 11344], [1, 3, 11345], [1, 3, 11346], [1, 3, 11347], [1, 3, 11348]],
    [[1, 3, 11349], [1, 3, 11350], [1, 3, 11351], [1, 3, 11352], [1, 3, 11353], [1, 3, 11354]],
    [[1, 3, 11355], [1, 3, 11356], [1, 3, 11357], [1, 3, 11358], [1, 3, 11359], [1, 0]],
    [[48, 3, 11361], [1, 0], [1, 3, 619], [1, 3, 7549], [1, 3, 637], [1, 0], [2, 3, 11368]],
    [[1, 0], [1, 3, 11370], [1, 0], [1, 3, 11372], [1, 0], [1, 3, 593], [1, 3, 625], [1, 3, 592]],
    [[1, 3, 594], [1, 0], [1, 3, 11379], [1, 0], [2, 3, 11382], [1, 0], [6, 3, 106], [1, 3, 118]],
    [[1, 3, 575], [1, 3, 576], [1, 3, 11393], [1, 0], [1, 3, 11395], [1, 0], [1, 3, 11397]],
    [[1, 0], [1, 3, 11399], [1, 0], [1, 3, 11401], [1, 0], [1, 3, 11403], [1, 0], [1, 3, 11405]],
    [[1, 0], [1, 3, 11407], [1, 0], [1, 3, 11409], [1, 0], [1, 3, 11411], [1, 0], [1, 3, 11413]],
    [[1, 0], [1, 3, 11415], [1, 0], [1, 3, 11417], [1, 0], [1, 3, 11419], [1, 0], [1, 3, 11421]],
    [[1, 0], [1, 3, 11423], [1, 0], [1, 3, 11425], [1, 0], [1, 3, 11427], [1, 0], [1, 3, 11429]],
    [[1, 0], [1, 3, 11431], [1, 0], [1, 3, 11433], [1, 0], [1, 3, 11435], [1, 0], [1, 3, 11437]],
    [[1, 0], [1, 3, 11439], [1, 0], [1, 3, 11441], [1, 0], [1, 3, 11443], [1, 0], [1, 3, 11445]],
    [[1, 0], [1, 3, 11447], [1, 0], [1, 3, 11449], [1, 0], [1, 3, 11451], [1, 0], [1, 3, 11453]],
    [[1, 0], [1, 3, 11455], [1, 0], [1, 3, 11457], [1, 0], [1, 3, 11459], [1, 0], [1, 3, 11461]],
    [[1, 0], [1, 3, 11463], [1, 0], [1, 3, 11465], [1, 0], [1, 3, 11467], [1, 0], [1, 3, 11469]],
    [[1, 0], [1, 3, 11471], [1, 0], [1, 3, 11473], [1, 0], [1, 3, 11475], [1, 0], [1, 3, 11477]],
    [[1, 0], [1, 3, 11479], [1, 0], [1, 3, 11481], [1, 0], [1, 3, 11483], [1, 0], [1, 3, 11485]],
    [[1, 0], [1, 3, 11487], [1, 0], [1, 3, 11489], [1, 0], [1, 3, 11491], [1, 0], [8, 3, 11500]],
    [[1, 0], [1, 3, 11502], [1, 0], [4, 3, 11507], [1, 0], [1, 1], [5, 0], [45, 1], [1, 0]],
    [[1, 1], [5, 0], [1, 1], [2, 0], [56, 1], [7, 3, 11617], [1, 0], [1, 1], [14, 0], [24, 1]],
    [[9, 0], [7, 1], [1, 0], [7, 1], [1, 0], [7, 1], [1, 0], [7, 1], [1, 0], [7, 1], [1, 0]],
    [[7, 1], [1, 0], [7, 1], [1, 0], [7, 1], [1, 0], [126, 1], [34, 0], [26, 1], [1, 0]],
    [[4, 3, 27597], [1, 0], [83, 3, 40863], [1, 1], [12, 3, 19968], [1, 3, 20008], [1, 3, 20022]],
    [[1, 3, 20031], [1, 3, 20057], [1, 3, 20101], [1, 3, 20108], [1, 3, 20128], [1, 3, 20154]],
    [[1, 3, 20799], [1, 3, 20837], [1, 3, 20843], [1, 3, 20866], [1, 3, 20886], [1, 3, 20907]],
    [[1, 3, 20960], [1, 3, 20981], [1, 3, 20992], [1, 3, 21147], [1, 3, 21241], [1, 3, 21269]],
    [[1, 3, 21274], [1, 3, 21304], [1, 3, 21313], [1, 3, 21340], [1, 3, 21353], [1, 3, 21378]],
    [[1, 3, 21430], [1, 3, 21448], [1, 3, 21475], [1, 3, 22231], [1, 3, 22303], [1, 3, 22763]],
    [[1, 3, 22786], [1, 3, 22794], [1, 3, 22805], [1, 3, 22823], [1, 3, 22899], [1, 3, 23376]],
    [[1, 3, 23424], [1, 3, 23544], [1, 3, 23567], [1, 3, 23586], [1, 3, 23608], [1, 3, 23662]],
    [[1, 3, 23665], [1, 3, 24027], [1, 3, 24037], [1, 3, 24049], [1, 3, 24062], [1, 3, 24178]],
    [[1, 3, 24186], [1, 3, 24191], [1, 3, 24308], [1, 3, 24318], [1, 3, 24331], [1, 3, 24339]],
    [[1, 3, 24400], [1, 3, 24417], [1, 3, 24435], [1, 3, 24515], [1, 3, 25096], [1, 3, 25142]],
    [[1, 3, 25163], [1, 3, 25903], [1, 3, 25908], [1, 3, 25991], [1, 3, 26007], [1, 3, 26020]],
    [[1, 3, 26041], [1, 3, 26080], [1, 3, 26085], [1, 3, 26352], [1, 3, 26376], [1, 3, 26408]],
    [[1, 3, 27424], [1, 3, 27490], [1, 3, 27513], [1, 3, 27571], [1, 3, 27595], [1, 3, 27604]],
    [[1, 3, 27611], [1, 3, 27663], [1, 3, 27668], [1, 3, 27700], [1, 3, 28779], [1, 3, 29226]],
    [[1, 3, 29238], [1, 3, 29243], [1, 3, 29247], [1, 3, 29255], [1, 3, 29273], [1, 3, 29275]],
    [[1, 3, 29356], [1, 3, 29572], [1, 3, 29577], [1, 3, 29916], [1, 3, 29926], [1, 3, 29976]],
    [[1, 3, 29983], [1, 3, 29992], [1, 3, 30000], [1, 3, 30091], [1, 3, 30098], [1, 3, 30326]],
    [[1, 3, 30333], [1, 3, 30382], [1, 3, 30399], [1, 3, 30446], [1, 3, 30683], [1, 3, 30690]],
    [[1, 3, 30707], [1, 3, 31034], [1, 3, 31160], [1, 3, 31166], [1, 3, 31348], [1, 3, 31435]],
    [[1, 3, 31481], [1, 3, 31859], [1, 3, 31992], [1, 3, 32566], [1, 3, 32593], [1, 3, 32650]],
    [[1, 3, 32701], [1, 3, 32769], [1, 3, 32780], [1, 3, 32786], [1, 3, 32819], [1, 3, 32895]],
    [[1, 3, 32905], [1, 3, 33251], [1, 3, 33258], [1, 3, 33267], [1, 3, 33276], [1, 3, 33292]],
    [[1, 3, 33307], [1, 3, 33311], [1, 3, 33390], [1, 3, 33394], [1, 3, 33400], [1, 3, 34381]],
    [[1, 3, 34411], [1, 3, 34880], [1, 3, 34892], [1, 3, 34915], [1, 3, 35198], [1, 3, 35211]],
    [[1, 3, 35282], [1, 3, 35328], [1, 3, 35895], [1, 3, 35910], [1, 3, 35925], [1, 3, 35960]],
    [[1, 3, 35997], [1, 3, 36196], [1, 3, 36208], [1, 3, 36275], [1, 3, 36523], [1, 3, 36554]],
    [[1, 3, 36763], [1, 3, 36784], [1, 3, 36789], [1, 3, 37009], [1, 3, 37193], [1, 3, 37318]],
    [[1, 3, 37324], [1, 3, 37329], [1, 3, 38263], [1, 3, 38272], [1, 3, 38428], [1, 3, 38582]],
    [[1, 3, 38585], [1, 3, 38632], [1, 3, 38737], [1, 3, 38750], [1, 3, 38754], [1, 3, 38761]],
    [[1, 3, 38859], [1, 3, 38893], [1, 3, 38899], [1, 3, 38913], [1, 3, 39080], [1, 3, 39131]],
    [[1, 3, 39135], [1, 3, 39318], [1, 3, 39321], [1, 3, 39340], [1, 3, 39592], [1, 3, 39640]],
    [[1, 3, 39647], [1, 3, 39717], [1, 3, 39727], [1, 3, 39730], [1, 3, 39740], [1, 3, 39770]],
    [[1, 3, 40165], [1, 3, 40565], [1, 3, 40575], [1, 3, 40613], [1, 3, 40635], [1, 3, 40643]],
    [[1, 3, 40653], [1, 3, 40657], [1, 3, 40697], [1, 3, 40701], [1, 3, 40718], [1, 3, 40723]],
    [[1, 3, 40736], [1, 3, 40763], [1, 3, 40778], [1, 3, 40786], [1, 3, 40845], [1, 3, 40860]],
    [[1, 3, 40864], [1, 1], [42, 3, 32], [1, 0], [1, 3, 46], [1, 0], [51, 3, 12306], [1, 0]],
    [[1, 3, 21313], [1, 3, 21316], [1, 3, 21317], [1, 0], [5, 1], [1, 0], [86, 1], [2, 0]],
    [[2, 3, 32, 12441], [1, 3, 32, 12442], [1, 0], [2, 3, 12424, 12426], [1, 0]],
    [[95, 3, 12467, 12488], [1, 1], [5, 0], [43, 1], [1, 3, 4352], [1, 3, 4353], [1, 3, 4522]],
    [[1, 3, 4354], [1, 3, 4524], [1, 3, 4525], [1, 3, 4355], [1, 3, 4356], [1, 3, 4357]],
    [[1, 3, 4528], [1, 3, 4529], [1, 3, 4530], [1, 3, 4531], [1, 3, 4532], [1, 3, 4533]],
    [[1, 3, 4378], [1, 3, 4358], [1, 3, 4359], [1, 3, 4360], [1, 3, 4385], [1, 3, 4361]],
    [[1, 3, 4362], [1, 3, 4363], [1, 3, 4364], [1, 3, 4365], [1, 3, 4366], [1, 3, 4367]],
    [[1, 3, 4368], [1, 3, 4369], [1, 3, 4370], [1, 3, 4449], [1, 3, 4450], [1, 3, 4451]],
    [[1, 3, 4452], [1, 3, 4453], [1, 3, 4454], [1, 3, 4455], [1, 3, 4456], [1, 3, 4457]],
    [[1, 3, 4458], [1, 3, 4459], [1, 3, 4460], [1, 3, 4461], [1, 3, 4462], [1, 3, 4463]],
    [[1, 3, 4464], [1, 3, 4465], [1, 3, 4466], [1, 3, 4467], [1, 3, 4468], [1, 3, 4469], [1, 2]],
    [[1, 3, 4372], [1, 3, 4373], [1, 3, 4551], [1, 3, 4552], [1, 3, 4556], [1, 3, 4558]],
    [[1, 3, 4563], [1, 3, 4567], [1, 3, 4569], [1, 3, 4380], [1, 3, 4573], [1, 3, 4575]],
    [[1, 3, 4381], [1, 3, 4382], [1, 3, 4384], [1, 3, 4386], [1, 3, 4387], [1, 3, 4391]],
    [[1, 3, 4393], [1, 3, 4395], [1, 3, 4396], [1, 3, 4397], [1, 3, 4398], [1, 3, 4399]],
    [[1, 3, 4402], [1, 3, 4406], [1, 3, 4416], [1, 3, 4423], [1, 3, 4428], [1, 3, 4593]],
    [[1, 3, 4594], [1, 3, 4439], [1, 3, 4440], [1, 3, 4441], [1, 3, 4484], [1, 3, 4485]],
    [[1, 3, 4488], [1, 3, 4497], [1, 3, 4498], [1, 3, 4500], [1, 3, 4510], [1, 3, 4513], [1, 1]],
    [[1, 0], [2, 3, 19968], [1, 3, 20108], [1, 3, 19977], [1, 3, 22235], [1, 3, 19978]],
    [[1, 3, 20013], [1, 3, 19979], [1, 3, 30002], [1, 3, 20057], [1, 3, 19993], [1, 3, 19969]],
    [[1, 3, 22825], [1, 3, 22320], [1, 3, 20154], [1, 0], [70, 1], [10, 0], [16, 3, 40, 4352, 41]],
    [[1, 3, 40, 4354, 41], [1, 3, 40, 4355, 41], [1, 3, 40, 4357, 41], [1, 3, 40, 4358, 41]],
    [[1, 3, 40, 4359, 41], [1, 3, 40, 4361, 41], [1, 3, 40, 4363, 41], [1, 3, 40, 4364, 41]],
    [[1, 3, 40, 4366, 41], [1, 3, 40, 4367, 41], [1, 3, 40, 4368, 41], [1, 3, 40, 4369, 41]],
    [[1, 3, 40, 4370, 41], [1, 3, 40, 44032, 41], [1, 3, 40, 45208, 41], [1, 3, 40, 45796, 41]],
    [[1, 3, 40, 46972, 41], [1, 3, 40, 47560, 41], [1, 3, 40, 48148, 41], [1, 3, 40, 49324, 41]],
    [[1, 3, 40, 50500, 41], [1, 3, 40, 51088, 41], [1, 3, 40, 52264, 41], [1, 3, 40, 52852, 41]],
    [[1, 3, 40, 53440, 41], [1, 3, 40, 54028, 41], [1, 3, 40, 54616, 41], [1, 3, 40, 51452, 41]],
    [[1, 3, 40, 50724, 51204, 41], [1, 3, 40, 50724, 54980, 41], [1, 1], [1, 3, 40, 19968, 41]],
    [[1, 3, 40, 20108, 41], [1, 3, 40, 19977, 41], [1, 3, 40, 22235, 41], [1, 3, 40, 20116, 41]],
    [[1, 3, 40, 20845, 41], [1, 3, 40, 19971, 41], [1, 3, 40, 20843, 41], [1, 3, 40, 20061, 41]],
    [[1, 3, 40, 21313, 41], [1, 3, 40, 26376, 41], [1, 3, 40, 28779, 41], [1, 3, 40, 27700, 41]],
    [[1, 3, 40, 26408, 41], [1, 3, 40, 37329, 41], [1, 3, 40, 22303, 41], [1, 3, 40, 26085, 41]],
    [[1, 3, 40, 26666, 41], [1, 3, 40, 26377, 41], [1, 3, 40, 31038, 41], [1, 3, 40, 21517, 41]],
    [[1, 3, 40, 29305, 41], [1, 3, 40, 36001, 41], [1, 3, 40, 31069, 41], [1, 3, 40, 21172, 41]],
    [[1, 3, 40, 20195, 41], [1, 3, 40, 21628, 41], [1, 3, 40, 23398, 41], [1, 3, 40, 30435, 41]],
    [[1, 3, 40, 20225, 41], [1, 3, 40, 36039, 41], [1, 3, 40, 21332, 41], [1, 3, 40, 31085, 41]],
    [[1, 3, 40, 20241, 41], [1, 3, 40, 33258, 41], [1, 3, 40, 33267, 41], [1, 3, 21839]],
    [[1, 3, 24188], [1, 3, 25991], [1, 3, 31631], [1, 0], [8, 3, 112, 116, 101], [1, 3, 50, 49]],
    [[1, 3, 50, 50], [1, 3, 50, 51], [1, 3, 50, 52], [1, 3, 50, 53], [1, 3, 50, 54]],
    [[1, 3, 50, 55], [1, 3, 50, 56], [1, 3, 50, 57], [1, 3, 51, 48], [1, 3, 51, 49]],
    [[1, 3, 51, 50], [1, 3, 51, 51], [1, 3, 51, 52], [1, 3, 51, 53], [1, 3, 4352], [1, 3, 4354]],
    [[1, 3, 4355], [1, 3, 4357], [1, 3, 4358], [1, 3, 4359], [1, 3, 4361], [1, 3, 4363]],
    [[1, 3, 4364], [1, 3, 4366], [1, 3, 4367], [1, 3, 4368], [1, 3, 4369], [1, 3, 4370]],
    [[1, 3, 44032], [1, 3, 45208], [1, 3, 45796], [1, 3, 46972], [1, 3, 47560], [1, 3, 48148]],
    [[1, 3, 49324], [1, 3, 50500], [1, 3, 51088], [1, 3, 52264], [1, 3, 52852], [1, 3, 53440]],
    [[1, 3, 54028], [1, 3, 54616], [1, 3, 52280, 44256], [1, 3, 51452, 51032], [1, 3, 50864]],
    [[1, 0], [1, 3, 19968], [1, 3, 20108], [1, 3, 19977], [1, 3, 22235], [1, 3, 20116]],
    [[1, 3, 20845], [1, 3, 19971], [1, 3, 20843], [1, 3, 20061], [1, 3, 21313], [1, 3, 26376]],
    [[1, 3, 28779], [1, 3, 27700], [1, 3, 26408], [1, 3, 37329], [1, 3, 22303], [1, 3, 26085]],
    [[1, 3, 26666], [1, 3, 26377], [1, 3, 31038], [1, 3, 21517], [1, 3, 29305], [1, 3, 36001]],
    [[1, 3, 31069], [1, 3, 21172], [1, 3, 31192], [1, 3, 30007], [1, 3, 22899], [1, 3, 36969]],
    [[1, 3, 20778], [1, 3, 21360], [1, 3, 27880], [1, 3, 38917], [1, 3, 20241], [1, 3, 20889]],
    [[1, 3, 27491], [1, 3, 19978], [1, 3, 20013], [1, 3, 19979], [1, 3, 24038], [1, 3, 21491]],
    [[1, 3, 21307], [1, 3, 23447], [1, 3, 23398], [1, 3, 30435], [1, 3, 20225], [1, 3, 36039]],
    [[1, 3, 21332], [1, 3, 22812], [1, 3, 51, 54], [1, 3, 51, 55], [1, 3, 51, 56], [1, 3, 51, 57]],
    [[1, 3, 52, 48], [1, 3, 52, 49], [1, 3, 52, 50], [1, 3, 52, 51], [1, 3, 52, 52]],
    [[1, 3, 52, 53], [1, 3, 52, 54], [1, 3, 52, 55], [1, 3, 52, 56], [1, 3, 52, 57]],
    [[1, 3, 53, 48], [1, 3, 49, 26376], [1, 3, 50, 26376], [1, 3, 51, 26376], [1, 3, 52, 26376]],
    [[1, 3, 53, 26376], [1, 3, 54, 26376], [1, 3, 55, 26376], [1, 3, 56, 26376]],
    [[1, 3, 57, 26376], [1, 3, 49, 48, 26376], [1, 3, 49, 49, 26376], [1, 3, 49, 50, 26376]],
    [[1, 3, 104, 103], [1, 3, 101, 114, 103], [1, 3, 101, 118], [1, 3, 108, 116, 100]],
    [[1, 3, 12450], [1, 3, 12452], [1, 3, 12454], [1, 3, 12456], [1, 3, 12458], [1, 3, 12459]],
    [[1, 3, 12461], [1, 3, 12463], [1, 3, 12465], [1, 3, 12467], [1, 3, 12469], [1, 3, 12471]],
    [[1, 3, 12473], [1, 3, 12475], [1, 3, 12477], [1, 3, 12479], [1, 3, 12481], [1, 3, 12484]],
    [[1, 3, 12486], [1, 3, 12488], [1, 3, 12490], [1, 3, 12491], [1, 3, 12492], [1, 3, 12493]],
    [[1, 3, 12494], [1, 3, 12495], [1, 3, 12498], [1, 3, 12501], [1, 3, 12504], [1, 3, 12507]],
    [[1, 3, 12510], [1, 3, 12511], [1, 3, 12512], [1, 3, 12513], [1, 3, 12514], [1, 3, 12516]],
    [[1, 3, 12518], [1, 3, 12520], [1, 3, 12521], [1, 3, 12522], [1, 3, 12523], [1, 3, 12524]],
    [[1, 3, 12525], [1, 3, 12527], [1, 3, 12528], [1, 3, 12529], [1, 3, 12530]],
    [[1, 3, 20196, 21644], [1, 3, 12450, 12497, 12540, 12488], [1, 3, 12450, 12523, 12501, 12449]],
    [[1, 3, 12450, 12531, 12506, 12450], [1, 3, 12450, 12540, 12523]],
    [[1, 3, 12452, 12491, 12531, 12464], [1, 3, 12452, 12531, 12481], [1, 3, 12454, 12457, 12531]],
    [[1, 3, 12456, 12473, 12463, 12540, 12489], [1, 3, 12456, 12540, 12459, 12540]],
    [[1, 3, 12458, 12531, 12473], [1, 3, 12458, 12540, 12512], [1, 3, 12459, 12452, 12522]],
    [[1, 3, 12459, 12521, 12483, 12488], [1, 3, 12459, 12525, 12522, 12540]],
    [[1, 3, 12460, 12525, 12531], [1, 3, 12460, 12531, 12510], [1, 3, 12462, 12460]],
    [[1, 3, 12462, 12491, 12540], [1, 3, 12461, 12517, 12522, 12540]],
    [[1, 3, 12462, 12523, 12480, 12540], [1, 3, 12461, 12525]],
    [[1, 3, 12461, 12525, 12464, 12521, 12512], [1, 3, 12461, 12525, 12513, 12540, 12488, 12523]],
    [[1, 3, 12461, 12525, 12527, 12483, 12488], [1, 3, 12464, 12521, 12512]],
    [[1, 3, 12464, 12521, 12512, 12488, 12531], [1, 3, 12463, 12523, 12476, 12452, 12525]],
    [[1, 3, 12463, 12525, 12540, 12493], [1, 3, 12465, 12540, 12473], [1, 3, 12467, 12523, 12490]],
    [[1, 3, 12467, 12540, 12509], [1, 3, 12469, 12452, 12463, 12523]],
    [[1, 3, 12469, 12531, 12481, 12540, 12512], [1, 3, 12471, 12522, 12531, 12464]],
    [[1, 3, 12475, 12531, 12481], [1, 3, 12475, 12531, 12488], [1, 3, 12480, 12540, 12473]],
    [[1, 3, 12487, 12471], [1, 3, 12489, 12523], [1, 3, 12488, 12531], [1, 3, 12490, 12494]],
    [[1, 3, 12494, 12483, 12488], [1, 3, 12495, 12452, 12484]],
    [[1, 3, 12497, 12540, 12475, 12531, 12488], [1, 3, 12497, 12540, 12484]],
    [[1, 3, 12496, 12540, 12524, 12523], [1, 3, 12500, 12450, 12473, 12488, 12523]],
    [[1, 3, 12500, 12463, 12523], [1, 3, 12500, 12467], [1, 3, 12499, 12523]],
    [[1, 3, 12501, 12449, 12521, 12483, 12489], [1, 3, 12501, 12451, 12540, 12488]],
    [[1, 3, 12502, 12483, 12471, 12455, 12523], [1, 3, 12501, 12521, 12531]],
    [[1, 3, 12504, 12463, 12479, 12540, 12523], [1, 3, 12506, 12477], [1, 3, 12506, 12491, 12498]],
    [[1, 3, 12504, 12523, 12484], [1, 3, 12506, 12531, 12473], [1, 3, 12506, 12540, 12472]],
    [[1, 3, 12505, 12540, 12479], [1, 3, 12509, 12452, 12531, 12488], [1, 3, 12508, 12523, 12488]],
    [[1, 3, 12507, 12531], [1, 3, 12509, 12531, 12489], [1, 3, 12507, 12540, 12523]],
    [[1, 3, 12507, 12540, 12531], [1, 3, 12510, 12452, 12463, 12525], [1, 3, 12510, 12452, 12523]],
    [[1, 3, 12510, 12483, 12495], [1, 3, 12510, 12523, 12463]],
    [[1, 3, 12510, 12531, 12471, 12519, 12531], [1, 3, 12511, 12463, 12525, 12531]],
    [[1, 3, 12511, 12522], [1, 3, 12511, 12522, 12496, 12540, 12523], [1, 3, 12513, 12460]],
    [[1, 3, 12513, 12460, 12488, 12531], [1, 3, 12513, 12540, 12488, 12523]],
    [[1, 3, 12516, 12540, 12489], [1, 3, 12516, 12540, 12523], [1, 3, 12518, 12450, 12531]],
    [[1, 3, 12522, 12483, 12488, 12523], [1, 3, 12522, 12521], [1, 3, 12523, 12500, 12540]],
    [[1, 3, 12523, 12540, 12502, 12523], [1, 3, 12524, 12512]],
    [[1, 3, 12524, 12531, 12488, 12466, 12531], [1, 3, 12527, 12483, 12488], [1, 3, 48, 28857]],
    [[1, 3, 49, 28857], [1, 3, 50, 28857], [1, 3, 51, 28857], [1, 3, 52, 28857]],
    [[1, 3, 53, 28857], [1, 3, 54, 28857], [1, 3, 55, 28857], [1, 3, 56, 28857]],
    [[1, 3, 57, 28857], [1, 3, 49, 48, 28857], [1, 3, 49, 49, 28857], [1, 3, 49, 50, 28857]],
    [[1, 3, 49, 51, 28857], [1, 3, 49, 52, 28857], [1, 3, 49, 53, 28857], [1, 3, 49, 54, 28857]],
    [[1, 3, 49, 55, 28857], [1, 3, 49, 56, 28857], [1, 3, 49, 57, 28857], [1, 3, 50, 48, 28857]],
    [[1, 3, 50, 49, 28857], [1, 3, 50, 50, 28857], [1, 3, 50, 51, 28857], [1, 3, 50, 52, 28857]],
    [[1, 3, 104, 112, 97], [1, 3, 100, 97], [1, 3, 97, 117], [1, 3, 98, 97, 114]],
    [[1, 3, 111, 118], [1, 3, 112, 99], [1, 3, 100, 109], [1, 3, 100, 109, 50]],
    [[1, 3, 100, 109, 51], [1, 3, 105, 117], [1, 3, 24179, 25104], [1, 3, 26157, 21644]],
    [[1, 3, 22823, 27491], [1, 3, 26126, 27835], [1, 3, 26666, 24335, 20250, 31038]],
    [[1, 3, 112, 97], [1, 3, 110, 97], [1, 3, 956, 97], [1, 3, 109, 97], [1, 3, 107, 97]],
    [[1, 3, 107, 98], [1, 3, 109, 98], [1, 3, 103, 98], [1, 3, 99, 97, 108]],
    [[1, 3, 107, 99, 97, 108], [1, 3, 112, 102], [1, 3, 110, 102], [1, 3, 956, 102]],
    [[1, 3, 956, 103], [1, 3, 109, 103], [1, 3, 107, 103], [1, 3, 104, 122]],
    [[1, 3, 107, 104, 122], [1, 3, 109, 104, 122], [1, 3, 103, 104, 122], [1, 3, 116, 104, 122]],
    [[1, 3, 956, 108], [1, 3, 109, 108], [1, 3, 100, 108], [1, 3, 107, 108], [1, 3, 102, 109]],
    [[1, 3, 110, 109], [1, 3, 956, 109], [1, 3, 109, 109], [1, 3, 99, 109], [1, 3, 107, 109]],
    [[1, 3, 109, 109, 50], [1, 3, 99, 109, 50], [1, 3, 109, 50], [1, 3, 107, 109, 50]],
    [[1, 3, 109, 109, 51], [1, 3, 99, 109, 51], [1, 3, 109, 51], [1, 3, 107, 109, 51]],
    [[1, 3, 109, 8725, 115], [1, 3, 109, 8725, 115, 50], [1, 3, 112, 97], [1, 3, 107, 112, 97]],
    [[1, 3, 109, 112, 97], [1, 3, 103, 112, 97], [1, 3, 114, 97, 100]],
    [[1, 3, 114, 97, 100, 8725, 115], [1, 3, 114, 97, 100, 8725, 115, 50], [1, 3, 112, 115]],
    [[1, 3, 110, 115], [1, 3, 956, 115], [1, 3, 109, 115], [1, 3, 112, 118], [1, 3, 110, 118]],
    [[1, 3, 956, 118], [1, 3, 109, 118], [1, 3, 107, 118], [1, 3, 109, 118], [1, 3, 112, 119]],
    [[1, 3, 110, 119], [1, 3, 956, 119], [1, 3, 109, 119], [1, 3, 107, 119], [1, 3, 109, 119]],
    [[1, 3, 107, 969], [1, 3, 109, 969], [1, 1], [1, 3, 98, 113], [1, 3, 99, 99], [1, 3, 99, 100]],
    [[1, 3, 99, 8725, 107, 103], [1, 1], [1, 3, 100, 98], [1, 3, 103, 121], [1, 3, 104, 97]],
    [[1, 3, 104, 112], [1, 3, 105, 110], [1, 3, 107, 107], [1, 3, 107, 109], [1, 3, 107, 116]],
    [[1, 3, 108, 109], [1, 3, 108, 110], [1, 3, 108, 111, 103], [1, 3, 108, 120], [1, 3, 109, 98]],
    [[1, 3, 109, 105, 108], [1, 3, 109, 111, 108], [1, 3, 112, 104], [1, 1]],
    [[1, 3, 112, 112, 109], [1, 3, 112, 114], [1, 3, 115, 114], [1, 3, 115, 118], [1, 3, 119, 98]],
    [[1, 3, 118, 8725, 109], [1, 3, 97, 8725, 109], [1, 3, 49, 26085], [1, 3, 50, 26085]],
    [[1, 3, 51, 26085], [1, 3, 52, 26085], [1, 3, 53, 26085], [1, 3, 54, 26085]],
    [[1, 3, 55, 26085], [1, 3, 56, 26085], [1, 3, 57, 26085], [1, 3, 49, 48, 26085]],
    [[1, 3, 49, 49, 26085], [1, 3, 49, 50, 26085], [1, 3, 49, 51, 26085], [1, 3, 49, 52, 26085]],
    [[1, 3, 49, 53, 26085], [1, 3, 49, 54, 26085], [1, 3, 49, 55, 26085], [1, 3, 49, 56, 26085]],
    [[1, 3, 49, 57, 26085], [1, 3, 50, 48, 26085], [1, 3, 50, 49, 26085], [1, 3, 50, 50, 26085]],
    [[1, 3, 50, 51, 26085], [1, 3, 50, 52, 26085], [1, 3, 50, 53, 26085], [1, 3, 50, 54, 26085]],
    [[1, 3, 50, 55, 26085], [1, 3, 50, 56, 26085], [1, 3, 50, 57, 26085], [1, 3, 51, 48, 26085]],
    [[1, 3, 51, 49, 26085], [1, 3, 103, 97, 108], [1, 0], [28813, 1], [3, 0], [55, 1], [9, 0]],
    [[348, 1], [20, 3, 42561], [1, 0], [1, 3, 42563], [1, 0], [1, 3, 42565], [1, 0]],
    [[1, 3, 42567], [1, 0], [1, 3, 42569], [1, 0], [1, 3, 42571], [1, 0], [1, 3, 42573], [1, 0]],
    [[1, 3, 42575], [1, 0], [1, 3, 42577], [1, 0], [1, 3, 42579], [1, 0], [1, 3, 42581], [1, 0]],
    [[1, 3, 42583], [1, 0], [1, 3, 42585], [1, 0], [1, 3, 42587], [1, 0], [1, 3, 42589], [1, 0]],
    [[1, 3, 42591], [1, 0], [1, 3, 42593], [1, 0], [1, 3, 42595], [1, 0], [1, 3, 42597], [1, 0]],
    [[1, 3, 42599], [1, 0], [1, 3, 42601], [1, 0], [1, 3, 42603], [1, 0], [1, 3, 42605], [1, 0]],
    [[19, 3, 42625], [1, 0], [1, 3, 42627], [1, 0], [1, 3, 42629], [1, 0], [1, 3, 42631], [1, 0]],
    [[1, 3, 42633], [1, 0], [1, 3, 42635], [1, 0], [1, 3, 42637], [1, 0], [1, 3, 42639], [1, 0]],
    [[1, 3, 42641], [1, 0], [1, 3, 42643], [1, 0], [1, 3, 42645], [1, 0], [1, 3, 42647], [1, 0]],
    [[1, 3, 42649], [1, 0], [1, 3, 42651], [1, 0], [1, 3, 1098], [1, 3, 1100], [1, 0], [90, 1]],
    [[8, 0], [34, 3, 42787], [1, 0], [1, 3, 42789], [1, 0], [1, 3, 42791], [1, 0], [1, 3, 42793]],
    [[1, 0], [1, 3, 42795], [1, 0], [1, 3, 42797], [1, 0], [1, 3, 42799], [1, 0], [3, 3, 42803]],
    [[1, 0], [1, 3, 42805], [1, 0], [1, 3, 42807], [1, 0], [1, 3, 42809], [1, 0], [1, 3, 42811]],
    [[1, 0], [1, 3, 42813], [1, 0], [1, 3, 42815], [1, 0], [1, 3, 42817], [1, 0], [1, 3, 42819]],
    [[1, 0], [1, 3, 42821], [1, 0], [1, 3, 42823], [1, 0], [1, 3, 42825], [1, 0], [1, 3, 42827]],
    [[1, 0], [1, 3, 42829], [1, 0], [1, 3, 42831], [1, 0], [1, 3, 42833], [1, 0], [1, 3, 42835]],
    [[1, 0], [1, 3, 42837], [1, 0], [1, 3, 42839], [1, 0], [1, 3, 42841], [1, 0], [1, 3, 42843]],
    [[1, 0], [1, 3, 42845], [1, 0], [1, 3, 42847], [1, 0], [1, 3, 42849], [1, 0], [1, 3, 42851]],
    [[1, 0], [1, 3, 42853], [1, 0], [1, 3, 42855], [1, 0], [1, 3, 42857], [1, 0], [1, 3, 42859]],
    [[1, 0], [1, 3, 42861], [1, 0], [1, 3, 42863], [1, 0], [1, 3, 42863], [1, 0], [8, 3, 42874]],
    [[1, 0], [1, 3, 42876], [1, 0], [1, 3, 7545], [1, 3, 42879], [1, 0], [1, 3, 42881], [1, 0]],
    [[1, 3, 42883], [1, 0], [1, 3, 42885], [1, 0], [1, 3, 42887], [1, 0], [4, 3, 42892], [1, 0]],
    [[1, 3, 613], [1, 0], [2, 3, 42897], [1, 0], [1, 3, 42899], [1, 0], [3, 3, 42903], [1, 0]],
    [[1, 3, 42905], [1, 0], [1, 3, 42907], [1, 0], [1, 3, 42909], [1, 0], [1, 3, 42911], [1, 0]],
    [[1, 3, 42913], [1, 0], [1, 3, 42915], [1, 0], [1, 3, 42917], [1, 0], [1, 3, 42919], [1, 0]],
    [[1, 3, 42921], [1, 0], [1, 3, 614], [1, 3, 604], [1, 3, 609], [1, 3, 620], [1, 3, 618]],
    [[1, 0], [1, 3, 670], [1, 3, 647], [1, 3, 669], [1, 3, 43859], [1, 3, 42933], [1, 0]],
    [[1, 3, 42935], [1, 0], [1, 3, 42937], [1, 0], [1, 3, 42939], [1, 0], [1, 3, 42941], [1, 0]],
    [[1, 3, 42943], [1, 0], [1, 3, 42945], [1, 0], [1, 3, 42947], [1, 0], [1, 3, 42900]],
    [[1, 3, 642], [1, 3, 7566], [1, 3, 42952], [1, 0], [1, 3, 42954], [1, 0], [1, 3, 612]],
    [[1, 3, 42957], [1, 0], [1, 3, 42959], [1, 0], [1, 3, 42961], [1, 0], [1, 3, 42963], [1, 0]],
    [[1, 3, 42965], [1, 0], [1, 3, 42967], [1, 0], [1, 3, 42969], [1, 0], [1, 3, 42971], [1, 0]],
    [[1, 3, 411], [1, 1], [20, 3, 115], [1, 3, 99], [1, 3, 102], [1, 3, 113], [1, 3, 42998]],
    [[1, 0], [2, 3, 295], [1, 3, 339], [1, 0], [51, 1], [3, 0], [10, 1], [6, 0], [56, 1], [8, 0]],
    [[70, 1], [8, 0], [12, 1], [6, 0], [116, 1], [11, 0], [30, 1], [3, 0], [78, 1], [1, 0]],
    [[11, 1], [4, 0], [33, 1], [1, 0], [55, 1], [9, 0], [14, 1], [2, 0], [10, 1], [2, 0]],
    [[103, 1], [24, 0], [28, 1], [10, 0], [6, 1], [2, 0], [6, 1], [2, 0], [6, 1], [9, 0], [7, 1]],
    [[1, 0], [7, 1], [1, 0], [44, 3, 42791], [1, 3, 43831], [1, 3, 619], [1, 3, 43858], [1, 0]],
    [[9, 3, 653], [1, 0], [2, 1], [4, 3, 5024], [1, 3, 5025], [1, 3, 5026], [1, 3, 5027]],
    [[1, 3, 5028], [1, 3, 5029], [1, 3, 5030], [1, 3, 5031], [1, 3, 5032], [1, 3, 5033]],
    [[1, 3, 5034], [1, 3, 5035], [1, 3, 5036], [1, 3, 5037], [1, 3, 5038], [1, 3, 5039]],
    [[1, 3, 5040], [1, 3, 5041], [1, 3, 5042], [1, 3, 5043], [1, 3, 5044], [1, 3, 5045]],
    [[1, 3, 5046], [1, 3, 5047], [1, 3, 5048], [1, 3, 5049], [1, 3, 5050], [1, 3, 5051]],
    [[1, 3, 5052], [1, 3, 5053], [1, 3, 5054], [1, 3, 5055], [1, 3, 5056], [1, 3, 5057]],
    [[1, 3, 5058], [1, 3, 5059], [1, 3, 5060], [1, 3, 5061], [1, 3, 5062], [1, 3, 5063]],
    [[1, 3, 5064], [1, 3, 5065], [1, 3, 5066], [1, 3, 5067], [1, 3, 5068], [1, 3, 5069]],
    [[1, 3, 5070], [1, 3, 5071], [1, 3, 5072], [1, 3, 5073], [1, 3, 5074], [1, 3, 5075]],
    [[1, 3, 5076], [1, 3, 5077], [1, 3, 5078], [1, 3, 5079], [1, 3, 5080], [1, 3, 5081]],
    [[1, 3, 5082], [1, 3, 5083], [1, 3, 5084], [1, 3, 5085], [1, 3, 5086], [1, 3, 5087]],
    [[1, 3, 5088], [1, 3, 5089], [1, 3, 5090], [1, 3, 5091], [1, 3, 5092], [1, 3, 5093]],
    [[1, 3, 5094], [1, 3, 5095], [1, 3, 5096], [1, 3, 5097], [1, 3, 5098], [1, 3, 5099]],
    [[1, 3, 5100], [1, 3, 5101], [1, 3, 5102], [1, 3, 5103], [1, 0], [46, 1], [2, 0], [10, 1]],
    [[6, 0], [11172, 1], [12, 0], [23, 1], [4, 0], [49, 1], [8452, 3, 35912], [1, 3, 26356]],
    [[1, 3, 36554], [1, 3, 36040], [1, 3, 28369], [1, 3, 20018], [1, 3, 21477], [1, 3, 40860]],
    [[2, 3, 22865], [1, 3, 37329], [1, 3, 21895], [1, 3, 22856], [1, 3, 25078], [1, 3, 30313]],
    [[1, 3, 32645], [1, 3, 34367], [1, 3, 34746], [1, 3, 35064], [1, 3, 37007], [1, 3, 27138]],
    [[1, 3, 27931], [1, 3, 28889], [1, 3, 29662], [1, 3, 33853], [1, 3, 37226], [1, 3, 39409]],
    [[1, 3, 20098], [1, 3, 21365], [1, 3, 27396], [1, 3, 29211], [1, 3, 34349], [1, 3, 40478]],
    [[1, 3, 23888], [1, 3, 28651], [1, 3, 34253], [1, 3, 35172], [1, 3, 25289], [1, 3, 33240]],
    [[1, 3, 34847], [1, 3, 24266], [1, 3, 26391], [1, 3, 28010], [1, 3, 29436], [1, 3, 37070]],
    [[1, 3, 20358], [1, 3, 20919], [1, 3, 21214], [1, 3, 25796], [1, 3, 27347], [1, 3, 29200]],
    [[1, 3, 30439], [1, 3, 32769], [1, 3, 34310], [1, 3, 34396], [1, 3, 36335], [1, 3, 38706]],
    [[1, 3, 39791], [1, 3, 40442], [1, 3, 30860], [1, 3, 31103], [1, 3, 32160], [1, 3, 33737]],
    [[1, 3, 37636], [1, 3, 40575], [1, 3, 35542], [1, 3, 22751], [1, 3, 24324], [1, 3, 31840]],
    [[1, 3, 32894], [1, 3, 29282], [1, 3, 30922], [1, 3, 36034], [1, 3, 38647], [1, 3, 22744]],
    [[1, 3, 23650], [1, 3, 27155], [1, 3, 28122], [1, 3, 28431], [1, 3, 32047], [1, 3, 32311]],
    [[1, 3, 38475], [1, 3, 21202], [1, 3, 32907], [1, 3, 20956], [1, 3, 20940], [1, 3, 31260]],
    [[1, 3, 32190], [1, 3, 33777], [1, 3, 38517], [1, 3, 35712], [1, 3, 25295], [1, 3, 27138]],
    [[1, 3, 35582], [1, 3, 20025], [1, 3, 23527], [1, 3, 24594], [1, 3, 29575], [1, 3, 30064]],
    [[1, 3, 21271], [1, 3, 30971], [1, 3, 20415], [1, 3, 24489], [1, 3, 19981], [1, 3, 27852]],
    [[1, 3, 25976], [1, 3, 32034], [1, 3, 21443], [1, 3, 22622], [1, 3, 30465], [1, 3, 33865]],
    [[1, 3, 35498], [1, 3, 27578], [1, 3, 36784], [1, 3, 27784], [1, 3, 25342], [1, 3, 33509]],
    [[1, 3, 25504], [1, 3, 30053], [1, 3, 20142], [1, 3, 20841], [1, 3, 20937], [1, 3, 26753]],
    [[1, 3, 31975], [1, 3, 33391], [1, 3, 35538], [1, 3, 37327], [1, 3, 21237], [1, 3, 21570]],
    [[1, 3, 22899], [1, 3, 24300], [1, 3, 26053], [1, 3, 28670], [1, 3, 31018], [1, 3, 38317]],
    [[1, 3, 39530], [1, 3, 40599], [1, 3, 40654], [1, 3, 21147], [1, 3, 26310], [1, 3, 27511]],
    [[1, 3, 36706], [1, 3, 24180], [1, 3, 24976], [1, 3, 25088], [1, 3, 25754], [1, 3, 28451]],
    [[1, 3, 29001], [1, 3, 29833], [1, 3, 31178], [1, 3, 32244], [1, 3, 32879], [1, 3, 36646]],
    [[1, 3, 34030], [1, 3, 36899], [1, 3, 37706], [1, 3, 21015], [1, 3, 21155], [1, 3, 21693]],
    [[1, 3, 28872], [1, 3, 35010], [1, 3, 35498], [1, 3, 24265], [1, 3, 24565], [1, 3, 25467]],
    [[1, 3, 27566], [1, 3, 31806], [1, 3, 29557], [1, 3, 20196], [1, 3, 22265], [1, 3, 23527]],
    [[1, 3, 23994], [1, 3, 24604], [1, 3, 29618], [1, 3, 29801], [1, 3, 32666], [1, 3, 32838]],
    [[1, 3, 37428], [1, 3, 38646], [1, 3, 38728], [1, 3, 38936], [1, 3, 20363], [1, 3, 31150]],
    [[1, 3, 37300], [1, 3, 38584], [1, 3, 24801], [1, 3, 20102], [1, 3, 20698], [1, 3, 23534]],
    [[1, 3, 23615], [1, 3, 26009], [1, 3, 27138], [1, 3, 29134], [1, 3, 30274], [1, 3, 34044]],
    [[1, 3, 36988], [1, 3, 40845], [1, 3, 26248], [1, 3, 38446], [1, 3, 21129], [1, 3, 26491]],
    [[1, 3, 26611], [1, 3, 27969], [1, 3, 28316], [1, 3, 29705], [1, 3, 30041], [1, 3, 30827]],
    [[1, 3, 32016], [1, 3, 39006], [1, 3, 20845], [1, 3, 25134], [1, 3, 38520], [1, 3, 20523]],
    [[1, 3, 23833], [1, 3, 28138], [1, 3, 36650], [1, 3, 24459], [1, 3, 24900], [1, 3, 26647]],
    [[1, 3, 29575], [1, 3, 38534], [1, 3, 21033], [1, 3, 21519], [1, 3, 23653], [1, 3, 26131]],
    [[1, 3, 26446], [1, 3, 26792], [1, 3, 27877], [1, 3, 29702], [1, 3, 30178], [1, 3, 32633]],
    [[1, 3, 35023], [1, 3, 35041], [1, 3, 37324], [1, 3, 38626], [1, 3, 21311], [1, 3, 28346]],
    [[1, 3, 21533], [1, 3, 29136], [1, 3, 29848], [1, 3, 34298], [1, 3, 38563], [1, 3, 40023]],
    [[1, 3, 40607], [1, 3, 26519], [1, 3, 28107], [1, 3, 33256], [1, 3, 31435], [1, 3, 31520]],
    [[1, 3, 31890], [1, 3, 29376], [1, 3, 28825], [1, 3, 35672], [1, 3, 20160], [1, 3, 33590]],
    [[1, 3, 21050], [1, 3, 20999], [1, 3, 24230], [1, 3, 25299], [1, 3, 31958], [1, 3, 23429]],
    [[1, 3, 27934], [1, 3, 26292], [1, 3, 36667], [1, 3, 34892], [1, 3, 38477], [1, 3, 35211]],
    [[1, 3, 24275], [1, 3, 20800], [1, 3, 21952], [1, 0], [2, 3, 22618], [1, 0], [1, 3, 26228]],
    [[1, 0], [2, 3, 20958], [1, 3, 29482], [1, 3, 30410], [1, 3, 31036], [1, 3, 31070]],
    [[1, 3, 31077], [1, 3, 31119], [1, 3, 38742], [1, 3, 31934], [1, 3, 32701], [1, 0]],
    [[1, 3, 34322], [1, 0], [1, 3, 35576], [1, 0], [2, 3, 36920], [1, 3, 37117], [1, 0]],
    [[3, 3, 39151], [1, 3, 39164], [1, 3, 39208], [1, 3, 40372], [1, 3, 37086], [1, 3, 38583]],
    [[1, 3, 20398], [1, 3, 20711], [1, 3, 20813], [1, 3, 21193], [1, 3, 21220], [1, 3, 21329]],
    [[1, 3, 21917], [1, 3, 22022], [1, 3, 22120], [1, 3, 22592], [1, 3, 22696], [1, 3, 23652]],
    [[1, 3, 23662], [1, 3, 24724], [1, 3, 24936], [1, 3, 24974], [1, 3, 25074], [1, 3, 25935]],
    [[1, 3, 26082], [1, 3, 26257], [1, 3, 26757], [1, 3, 28023], [1, 3, 28186], [1, 3, 28450]],
    [[1, 3, 29038], [1, 3, 29227], [1, 3, 29730], [1, 3, 30865], [1, 3, 31038], [1, 3, 31049]],
    [[1, 3, 31048], [1, 3, 31056], [1, 3, 31062], [1, 3, 31069], [1, 3, 31117], [1, 3, 31118]],
    [[1, 3, 31296], [1, 3, 31361], [1, 3, 31680], [1, 3, 32244], [1, 3, 32265], [1, 3, 32321]],
    [[1, 3, 32626], [1, 3, 32773], [1, 3, 33261], [1, 3, 33401], [2, 3, 33879], [1, 3, 35088]],
    [[1, 3, 35222], [1, 3, 35585], [1, 3, 35641], [1, 3, 36051], [1, 3, 36104], [1, 3, 36790]],
    [[1, 3, 36920], [1, 3, 38627], [1, 3, 38911], [1, 3, 38971], [1, 3, 24693], [1, 3, 148206]],
    [[1, 3, 33304], [1, 1], [2, 3, 20006], [1, 3, 20917], [1, 3, 20840], [1, 3, 20352]],
    [[1, 3, 20805], [1, 3, 20864], [1, 3, 21191], [1, 3, 21242], [1, 3, 21917], [1, 3, 21845]],
    [[1, 3, 21913], [1, 3, 21986], [1, 3, 22618], [1, 3, 22707], [1, 3, 22852], [1, 3, 22868]],
    [[1, 3, 23138], [1, 3, 23336], [1, 3, 24274], [1, 3, 24281], [1, 3, 24425], [1, 3, 24493]],
    [[1, 3, 24792], [1, 3, 24910], [1, 3, 24840], [1, 3, 24974], [1, 3, 24928], [1, 3, 25074]],
    [[1, 3, 25140], [1, 3, 25540], [1, 3, 25628], [1, 3, 25682], [1, 3, 25942], [1, 3, 26228]],
    [[1, 3, 26391], [1, 3, 26395], [1, 3, 26454], [1, 3, 27513], [1, 3, 27578], [1, 3, 27969]],
    [[1, 3, 28379], [1, 3, 28363], [1, 3, 28450], [1, 3, 28702], [1, 3, 29038], [1, 3, 30631]],
    [[1, 3, 29237], [1, 3, 29359], [1, 3, 29482], [1, 3, 29809], [1, 3, 29958], [1, 3, 30011]],
    [[1, 3, 30237], [1, 3, 30239], [1, 3, 30410], [1, 3, 30427], [1, 3, 30452], [1, 3, 30538]],
    [[1, 3, 30528], [1, 3, 30924], [1, 3, 31409], [1, 3, 31680], [1, 3, 31867], [1, 3, 32091]],
    [[1, 3, 32244], [1, 3, 32574], [1, 3, 32773], [1, 3, 33618], [1, 3, 33775], [1, 3, 34681]],
    [[1, 3, 35137], [1, 3, 35206], [1, 3, 35222], [1, 3, 35519], [1, 3, 35576], [1, 3, 35531]],
    [[1, 3, 35585], [1, 3, 35582], [1, 3, 35565], [1, 3, 35641], [1, 3, 35722], [1, 3, 36104]],
    [[1, 3, 36664], [1, 3, 36978], [1, 3, 37273], [1, 3, 37494], [1, 3, 38524], [1, 3, 38627]],
    [[1, 3, 38742], [1, 3, 38875], [1, 3, 38911], [1, 3, 38923], [1, 3, 38971], [1, 3, 39698]],
    [[1, 3, 40860], [1, 3, 141386], [1, 3, 141380], [1, 3, 144341], [1, 3, 15261], [1, 3, 16408]],
    [[1, 3, 16441], [1, 3, 152137], [1, 3, 154832], [1, 3, 163539], [1, 3, 40771], [1, 3, 40846]],
    [[1, 1], [38, 3, 102, 102], [1, 3, 102, 105], [1, 3, 102, 108], [1, 3, 102, 102, 105]],
    [[1, 3, 102, 102, 108], [1, 3, 115, 116], [2, 1], [12, 3, 1396, 1398], [1, 3, 1396, 1381]],
    [[1, 3, 1396, 1387], [1, 3, 1406, 1398], [1, 3, 1396, 1389], [1, 1], [5, 3, 1497, 1460]],
    [[1, 0], [1, 3, 1522, 1463], [1, 3, 1506], [1, 3, 1488], [1, 3, 1491], [1, 3, 1492]],
    [[1, 3, 1499], [1, 3, 1500], [1, 3, 1501], [1, 3, 1512], [1, 3, 1514], [1, 3, 43]],
    [[1, 3, 1513, 1473], [1, 3, 1513, 1474], [1, 3, 1513, 1468, 1473], [1, 3, 1513, 1468, 1474]],
    [[1, 3, 1488, 1463], [1, 3, 1488, 1464], [1, 3, 1488, 1468], [1, 3, 1489, 1468]],
    [[1, 3, 1490, 1468], [1, 3, 1491, 1468], [1, 3, 1492, 1468], [1, 3, 1493, 1468]],
    [[1, 3, 1494, 1468], [1, 1], [1, 3, 1496, 1468], [1, 3, 1497, 1468], [1, 3, 1498, 1468]],
    [[1, 3, 1499, 1468], [1, 3, 1500, 1468], [1, 1], [1, 3, 1502, 1468], [1, 1]],
    [[1, 3, 1504, 1468], [1, 3, 1505, 1468], [1, 1], [1, 3, 1507, 1468], [1, 3, 1508, 1468]],
    [[1, 1], [1, 3, 1510, 1468], [1, 3, 1511, 1468], [1, 3, 1512, 1468], [1, 3, 1513, 1468]],
    [[1, 3, 1514, 1468], [1, 3, 1493, 1465], [1, 3, 1489, 1471], [1, 3, 1499, 1471]],
    [[1, 3, 1508, 1471], [1, 3, 1488, 1500], [1, 3, 1649], [2, 3, 1659], [4, 3, 1662]],
    [[4, 3, 1664], [4, 3, 1658], [4, 3, 1663], [4, 3, 1657], [4, 3, 1700], [4, 3, 1702]],
    [[4, 3, 1668], [4, 3, 1667], [4, 3, 1670], [4, 3, 1671], [4, 3, 1677], [2, 3, 1676]],
    [[2, 3, 1678], [2, 3, 1672], [2, 3, 1688], [2, 3, 1681], [2, 3, 1705], [4, 3, 1711]],
    [[4, 3, 1715], [4, 3, 1713], [4, 3, 1722], [2, 3, 1723], [4, 3, 1728], [2, 3, 1729]],
    [[4, 3, 1726], [4, 3, 1746], [2, 3, 1747], [2, 0], [33, 3, 1709], [4, 3, 1735], [2, 3, 1734]],
    [[2, 3, 1736], [2, 3, 1735, 1652], [1, 3, 1739], [2, 3, 1733], [2, 3, 1737], [2, 3, 1744]],
    [[4, 3, 1609], [2, 3, 1574, 1575], [2, 3, 1574, 1749], [2, 3, 1574, 1608], [2, 3, 1574, 1735]],
    [[2, 3, 1574, 1734], [2, 3, 1574, 1736], [2, 3, 1574, 1744], [3, 3, 1574, 1609], [3, 3, 1740]],
    [[4, 3, 1574, 1580], [1, 3, 1574, 1581], [1, 3, 1574, 1605], [1, 3, 1574, 1609]],
    [[1, 3, 1574, 1610], [1, 3, 1576, 1580], [1, 3, 1576, 1581], [1, 3, 1576, 1582]],
    [[1, 3, 1576, 1605], [1, 3, 1576, 1609], [1, 3, 1576, 1610], [1, 3, 1578, 1580]],
    [[1, 3, 1578, 1581], [1, 3, 1578, 1582], [1, 3, 1578, 1605], [1, 3, 1578, 1609]],
    [[1, 3, 1578, 1610], [1, 3, 1579, 1580], [1, 3, 1579, 1605], [1, 3, 1579, 1609]],
    [[1, 3, 1579, 1610], [1, 3, 1580, 1581], [1, 3, 1580, 1605], [1, 3, 1581, 1580]],
    [[1, 3, 1581, 1605], [1, 3, 1582, 1580], [1, 3, 1582, 1581], [1, 3, 1582, 1605]],
    [[1, 3, 1587, 1580], [1, 3, 1587, 1581], [1, 3, 1587, 1582], [1, 3, 1587, 1605]],
    [[1, 3, 1589, 1581], [1, 3, 1589, 1605], [1, 3, 1590, 1580], [1, 3, 1590, 1581]],
    [[1, 3, 1590, 1582], [1, 3, 1590, 1605], [1, 3, 1591, 1581], [1, 3, 1591, 1605]],
    [[1, 3, 1592, 1605], [1, 3, 1593, 1580], [1, 3, 1593, 1605], [1, 3, 1594, 1580]],
    [[1, 3, 1594, 1605], [1, 3, 1601, 1580], [1, 3, 1601, 1581], [1, 3, 1601, 1582]],
    [[1, 3, 1601, 1605], [1, 3, 1601, 1609], [1, 3, 1601, 1610], [1, 3, 1602, 1581]],
    [[1, 3, 1602, 1605], [1, 3, 1602, 1609], [1, 3, 1602, 1610], [1, 3, 1603, 1575]],
    [[1, 3, 1603, 1580], [1, 3, 1603, 1581], [1, 3, 1603, 1582], [1, 3, 1603, 1604]],
    [[1, 3, 1603, 1605], [1, 3, 1603, 1609], [1, 3, 1603, 1610], [1, 3, 1604, 1580]],
    [[1, 3, 1604, 1581], [1, 3, 1604, 1582], [1, 3, 1604, 1605], [1, 3, 1604, 1609]],
    [[1, 3, 1604, 1610], [1, 3, 1605, 1580], [1, 3, 1605, 1581], [1, 3, 1605, 1582]],
    [[1, 3, 1605, 1605], [1, 3, 1605, 1609], [1, 3, 1605, 1610], [1, 3, 1606, 1580]],
    [[1, 3, 1606, 1581], [1, 3, 1606, 1582], [1, 3, 1606, 1605], [1, 3, 1606, 1609]],
    [[1, 3, 1606, 1610], [1, 3, 1607, 1580], [1, 3, 1607, 1605], [1, 3, 1607, 1609]],
    [[1, 3, 1607, 1610], [1, 3, 1610, 1580], [1, 3, 1610, 1581], [1, 3, 1610, 1582]],
    [[1, 3, 1610, 1605], [1, 3, 1610, 1609], [1, 3, 1610, 1610], [1, 3, 1584, 1648]],
    [[1, 3, 1585, 1648], [1, 3, 1609, 1648], [1, 3, 32, 1612, 1617], [1, 3, 32, 1613, 1617]],
    [[1, 3, 32, 1614, 1617], [1, 3, 32, 1615, 1617], [1, 3, 32, 1616, 1617]],
    [[1, 3, 32, 1617, 1648], [1, 3, 1574, 1585], [1, 3, 1574, 1586], [1, 3, 1574, 1605]],
    [[1, 3, 1574, 1606], [1, 3, 1574, 1609], [1, 3, 1574, 1610], [1, 3, 1576, 1585]],
    [[1, 3, 1576, 1586], [1, 3, 1576, 1605], [1, 3, 1576, 1606], [1, 3, 1576, 1609]],
    [[1, 3, 1576, 1610], [1, 3, 1578, 1585], [1, 3, 1578, 1586], [1, 3, 1578, 1605]],
    [[1, 3, 1578, 1606], [1, 3, 1578, 1609], [1, 3, 1578, 1610], [1, 3, 1579, 1585]],
    [[1, 3, 1579, 1586], [1, 3, 1579, 1605], [1, 3, 1579, 1606], [1, 3, 1579, 1609]],
    [[1, 3, 1579, 1610], [1, 3, 1601, 1609], [1, 3, 1601, 1610], [1, 3, 1602, 1609]],
    [[1, 3, 1602, 1610], [1, 3, 1603, 1575], [1, 3, 1603, 1604], [1, 3, 1603, 1605]],
    [[1, 3, 1603, 1609], [1, 3, 1603, 1610], [1, 3, 1604, 1605], [1, 3, 1604, 1609]],
    [[1, 3, 1604, 1610], [1, 3, 1605, 1575], [1, 3, 1605, 1605], [1, 3, 1606, 1585]],
    [[1, 3, 1606, 1586], [1, 3, 1606, 1605], [1, 3, 1606, 1606], [1, 3, 1606, 1609]],
    [[1, 3, 1606, 1610], [1, 3, 1609, 1648], [1, 3, 1610, 1585], [1, 3, 1610, 1586]],
    [[1, 3, 1610, 1605], [1, 3, 1610, 1606], [1, 3, 1610, 1609], [1, 3, 1610, 1610]],
    [[1, 3, 1574, 1580], [1, 3, 1574, 1581], [1, 3, 1574, 1582], [1, 3, 1574, 1605]],
    [[1, 3, 1574, 1607], [1, 3, 1576, 1580], [1, 3, 1576, 1581], [1, 3, 1576, 1582]],
    [[1, 3, 1576, 1605], [1, 3, 1576, 1607], [1, 3, 1578, 1580], [1, 3, 1578, 1581]],
    [[1, 3, 1578, 1582], [1, 3, 1578, 1605], [1, 3, 1578, 1607], [1, 3, 1579, 1605]],
    [[1, 3, 1580, 1581], [1, 3, 1580, 1605], [1, 3, 1581, 1580], [1, 3, 1581, 1605]],
    [[1, 3, 1582, 1580], [1, 3, 1582, 1605], [1, 3, 1587, 1580], [1, 3, 1587, 1581]],
    [[1, 3, 1587, 1582], [1, 3, 1587, 1605], [1, 3, 1589, 1581], [1, 3, 1589, 1582]],
    [[1, 3, 1589, 1605], [1, 3, 1590, 1580], [1, 3, 1590, 1581], [1, 3, 1590, 1582]],
    [[1, 3, 1590, 1605], [1, 3, 1591, 1581], [1, 3, 1592, 1605], [1, 3, 1593, 1580]],
    [[1, 3, 1593, 1605], [1, 3, 1594, 1580], [1, 3, 1594, 1605], [1, 3, 1601, 1580]],
    [[1, 3, 1601, 1581], [1, 3, 1601, 1582], [1, 3, 1601, 1605], [1, 3, 1602, 1581]],
    [[1, 3, 1602, 1605], [1, 3, 1603, 1580], [1, 3, 1603, 1581], [1, 3, 1603, 1582]],
    [[1, 3, 1603, 1604], [1, 3, 1603, 1605], [1, 3, 1604, 1580], [1, 3, 1604, 1581]],
    [[1, 3, 1604, 1582], [1, 3, 1604, 1605], [1, 3, 1604, 1607], [1, 3, 1605, 1580]],
    [[1, 3, 1605, 1581], [1, 3, 1605, 1582], [1, 3, 1605, 1605], [1, 3, 1606, 1580]],
    [[1, 3, 1606, 1581], [1, 3, 1606, 1582], [1, 3, 1606, 1605], [1, 3, 1606, 1607]],
    [[1, 3, 1607, 1580], [1, 3, 1607, 1605], [1, 3, 1607, 1648], [1, 3, 1610, 1580]],
    [[1, 3, 1610, 1581], [1, 3, 1610, 1582], [1, 3, 1610, 1605], [1, 3, 1610, 1607]],
    [[1, 3, 1574, 1605], [1, 3, 1574, 1607], [1, 3, 1576, 1605], [1, 3, 1576, 1607]],
    [[1, 3, 1578, 1605], [1, 3, 1578, 1607], [1, 3, 1579, 1605], [1, 3, 1579, 1607]],
    [[1, 3, 1587, 1605], [1, 3, 1587, 1607], [1, 3, 1588, 1605], [1, 3, 1588, 1607]],
    [[1, 3, 1603, 1604], [1, 3, 1603, 1605], [1, 3, 1604, 1605], [1, 3, 1606, 1605]],
    [[1, 3, 1606, 1607], [1, 3, 1610, 1605], [1, 3, 1610, 1607], [1, 3, 1600, 1614, 1617]],
    [[1, 3, 1600, 1615, 1617], [1, 3, 1600, 1616, 1617], [1, 3, 1591, 1609], [1, 3, 1591, 1610]],
    [[1, 3, 1593, 1609], [1, 3, 1593, 1610], [1, 3, 1594, 1609], [1, 3, 1594, 1610]],
    [[1, 3, 1587, 1609], [1, 3, 1587, 1610], [1, 3, 1588, 1609], [1, 3, 1588, 1610]],
    [[1, 3, 1581, 1609], [1, 3, 1581, 1610], [1, 3, 1580, 1609], [1, 3, 1580, 1610]],
    [[1, 3, 1582, 1609], [1, 3, 1582, 1610], [1, 3, 1589, 1609], [1, 3, 1589, 1610]],
    [[1, 3, 1590, 1609], [1, 3, 1590, 1610], [1, 3, 1588, 1580], [1, 3, 1588, 1581]],
    [[1, 3, 1588, 1582], [1, 3, 1588, 1605], [1, 3, 1588, 1585], [1, 3, 1587, 1585]],
    [[1, 3, 1589, 1585], [1, 3, 1590, 1585], [1, 3, 1591, 1609], [1, 3, 1591, 1610]],
    [[1, 3, 1593, 1609], [1, 3, 1593, 1610], [1, 3, 1594, 1609], [1, 3, 1594, 1610]],
    [[1, 3, 1587, 1609], [1, 3, 1587, 1610], [1, 3, 1588, 1609], [1, 3, 1588, 1610]],
    [[1, 3, 1581, 1609], [1, 3, 1581, 1610], [1, 3, 1580, 1609], [1, 3, 1580, 1610]],
    [[1, 3, 1582, 1609], [1, 3, 1582, 1610], [1, 3, 1589, 1609], [1, 3, 1589, 1610]],
    [[1, 3, 1590, 1609], [1, 3, 1590, 1610], [1, 3, 1588, 1580], [1, 3, 1588, 1581]],
    [[1, 3, 1588, 1582], [1, 3, 1588, 1605], [1, 3, 1588, 1585], [1, 3, 1587, 1585]],
    [[1, 3, 1589, 1585], [1, 3, 1590, 1585], [1, 3, 1588, 1580], [1, 3, 1588, 1581]],
    [[1, 3, 1588, 1582], [1, 3, 1588, 1605], [1, 3, 1587, 1607], [1, 3, 1588, 1607]],
    [[1, 3, 1591, 1605], [1, 3, 1587, 1580], [1, 3, 1587, 1581], [1, 3, 1587, 1582]],
    [[1, 3, 1588, 1580], [1, 3, 1588, 1581], [1, 3, 1588, 1582], [1, 3, 1591, 1605]],
    [[1, 3, 1592, 1605], [1, 3, 1575, 1611], [2, 0], [18, 3, 1578, 1580, 1605]],
    [[1, 3, 1578, 1581, 1580], [2, 3, 1578, 1581, 1605], [1, 3, 1578, 1582, 1605]],
    [[1, 3, 1578, 1605, 1580], [1, 3, 1578, 1605, 1581], [1, 3, 1578, 1605, 1582]],
    [[1, 3, 1580, 1605, 1581], [2, 3, 1581, 1605, 1610], [1, 3, 1581, 1605, 1609]],
    [[1, 3, 1587, 1581, 1580], [1, 3, 1587, 1580, 1581], [1, 3, 1587, 1580, 1609]],
    [[1, 3, 1587, 1605, 1581], [2, 3, 1587, 1605, 1580], [1, 3, 1587, 1605, 1605]],
    [[2, 3, 1589, 1581, 1581], [2, 3, 1589, 1605, 1605], [1, 3, 1588, 1581, 1605]],
    [[2, 3, 1588, 1580, 1610], [1, 3, 1588, 1605, 1582], [2, 3, 1588, 1605, 1605]],
    [[2, 3, 1590, 1581, 1609], [1, 3, 1590, 1582, 1605], [2, 3, 1591, 1605, 1581]],
    [[2, 3, 1591, 1605, 1605], [1, 3, 1591, 1605, 1610], [1, 3, 1593, 1580, 1605]],
    [[1, 3, 1593, 1605, 1605], [2, 3, 1593, 1605, 1609], [1, 3, 1594, 1605, 1605]],
    [[1, 3, 1594, 1605, 1610], [1, 3, 1594, 1605, 1609], [1, 3, 1601, 1582, 1605]],
    [[2, 3, 1602, 1605, 1581], [1, 3, 1602, 1605, 1605], [1, 3, 1604, 1581, 1605]],
    [[1, 3, 1604, 1581, 1610], [1, 3, 1604, 1581, 1609], [1, 3, 1604, 1580, 1580]],
    [[2, 3, 1604, 1582, 1605], [2, 3, 1604, 1605, 1581], [2, 3, 1605, 1581, 1580]],
    [[1, 3, 1605, 1581, 1605], [1, 3, 1605, 1581, 1610], [1, 3, 1605, 1580, 1581]],
    [[1, 3, 1605, 1580, 1605], [1, 3, 1605, 1582, 1580], [1, 3, 1605, 1582, 1605], [1, 0]],
    [[2, 3, 1605, 1580, 1582], [1, 3, 1607, 1605, 1580], [1, 3, 1607, 1605, 1605]],
    [[1, 3, 1606, 1581, 1605], [1, 3, 1606, 1581, 1609], [1, 3, 1606, 1580, 1605]],
    [[2, 3, 1606, 1580, 1609], [1, 3, 1606, 1605, 1610], [1, 3, 1606, 1605, 1609]],
    [[1, 3, 1610, 1605, 1605], [2, 3, 1576, 1582, 1610], [1, 3, 1578, 1580, 1610]],
    [[1, 3, 1578, 1580, 1609], [1, 3, 1578, 1582, 1610], [1, 3, 1578, 1582, 1609]],
    [[1, 3, 1578, 1605, 1610], [1, 3, 1578, 1605, 1609], [1, 3, 1580, 1605, 1610]],
    [[1, 3, 1580, 1581, 1609], [1, 3, 1580, 1605, 1609], [1, 3, 1587, 1582, 1609]],
    [[1, 3, 1589, 1581, 1610], [1, 3, 1588, 1581, 1610], [1, 3, 1590, 1581, 1610]],
    [[1, 3, 1604, 1580, 1610], [1, 3, 1604, 1605, 1610], [1, 3, 1610, 1581, 1610]],
    [[1, 3, 1610, 1580, 1610], [1, 3, 1610, 1605, 1610], [1, 3, 1605, 1605, 1610]],
    [[1, 3, 1602, 1605, 1610], [1, 3, 1606, 1581, 1610], [1, 3, 1602, 1605, 1581]],
    [[1, 3, 1604, 1581, 1605], [1, 3, 1593, 1605, 1610], [1, 3, 1603, 1605, 1610]],
    [[1, 3, 1606, 1580, 1581], [1, 3, 1605, 1582, 1610], [1, 3, 1604, 1580, 1605]],
    [[1, 3, 1603, 1605, 1605], [1, 3, 1604, 1580, 1605], [1, 3, 1606, 1580, 1581]],
    [[1, 3, 1580, 1581, 1610], [1, 3, 1581, 1580, 1610], [1, 3, 1605, 1580, 1610]],
    [[1, 3, 1601, 1605, 1610], [1, 3, 1576, 1581, 1610], [1, 3, 1603, 1605, 1605]],
    [[1, 3, 1593, 1580, 1605], [1, 3, 1589, 1605, 1605], [1, 3, 1587, 1582, 1610]],
    [[1, 3, 1606, 1580, 1610], [1, 0], [8, 1], [32, 3, 1589, 1604, 1746]],
    [[1, 3, 1602, 1604, 1746], [1, 3, 1575, 1604, 1604, 1607], [1, 3, 1575, 1603, 1576, 1585]],
    [[1, 3, 1605, 1581, 1605, 1583], [1, 3, 1589, 1604, 1593, 1605]],
    [[1, 3, 1585, 1587, 1608, 1604], [1, 3, 1593, 1604, 1610, 1607]],
    [[1, 3, 1608, 1587, 1604, 1605], [1, 3, 1589, 1604, 1609]],
    [[1, 3, 1589, 1604, 1609, 32, 1575, 1604, 1604, 1607, 32, 1593, 1604, 1610, 1607, 32, 1608, 1587, 1604, 1605]],
    [[1, 3, 1580, 1604, 32, 1580, 1604, 1575, 1604, 1607], [1, 3, 1585, 1740, 1575, 1604], [1, 0]],
    [[3, 2], [16, 3, 44], [1, 3, 12289], [1, 1], [1, 3, 58], [1, 3, 59], [1, 3, 33], [1, 3, 63]],
    [[1, 3, 12310], [1, 3, 12311], [1, 1], [7, 0], [16, 1], [1, 3, 8212], [1, 3, 8211]],
    [[1, 3, 95], [2, 3, 40], [1, 3, 41], [1, 3, 123], [1, 3, 125], [1, 3, 12308], [1, 3, 12309]],
    [[1, 3, 12304], [1, 3, 12305], [1, 3, 12298], [1, 3, 12299], [1, 3, 12296], [1, 3, 12297]],
    [[1, 3, 12300], [1, 3, 12301], [1, 3, 12302], [1, 3, 12303], [1, 0], [2, 3, 91], [1, 3, 93]],
    [[1, 3, 32, 773], [4, 3, 95], [3, 3, 44], [1, 3, 12289], [1, 1], [2, 3, 59], [1, 3, 58]],
    [[1, 3, 63], [1, 3, 33], [1, 3, 8212], [1, 3, 40], [1, 3, 41], [1, 3, 123], [1, 3, 125]],
    [[1, 3, 12308], [1, 3, 12309], [1, 3, 35], [1, 3, 38], [1, 3, 42], [1, 3, 43], [1, 3, 45]],
    [[1, 3, 60], [1, 3, 62], [1, 3, 61], [1, 1], [1, 3, 92], [1, 3, 36], [1, 3, 37], [1, 3, 64]],
    [[1, 1], [4, 3, 32, 1611], [1, 3, 1600, 1611], [1, 3, 32, 1612], [1, 0], [1, 3, 32, 1613]],
    [[1, 1], [1, 3, 32, 1614], [1, 3, 1600, 1614], [1, 3, 32, 1615], [1, 3, 1600, 1615]],
    [[1, 3, 32, 1616], [1, 3, 1600, 1616], [1, 3, 32, 1617], [1, 3, 1600, 1617], [1, 3, 32, 1618]],
    [[1, 3, 1600, 1618], [1, 3, 1569], [1, 3, 1570], [2, 3, 1571], [2, 3, 1572], [2, 3, 1573]],
    [[2, 3, 1574], [4, 3, 1575], [2, 3, 1576], [4, 3, 1577], [2, 3, 1578], [4, 3, 1579]],
    [[4, 3, 1580], [4, 3, 1581], [4, 3, 1582], [4, 3, 1583], [2, 3, 1584], [2, 3, 1585]],
    [[2, 3, 1586], [2, 3, 1587], [4, 3, 1588], [4, 3, 1589], [4, 3, 1590], [4, 3, 1591]],
    [[4, 3, 1592], [4, 3, 1593], [4, 3, 1594], [4, 3, 1601], [4, 3, 1602], [4, 3, 1603]],
    [[4, 3, 1604], [4, 3, 1605], [4, 3, 1606], [4, 3, 1607], [4, 3, 1608], [2, 3, 1609]],
    [[2, 3, 1610], [4, 3, 1604, 1570], [2, 3, 1604, 1571], [2, 3, 1604, 1573], [2, 3, 1604, 1575]],
    [[2, 1], [2, 2], [1, 1], [1, 3, 33], [1, 3, 34], [1, 3, 35], [1, 3, 36], [1, 3, 37]],
    [[1, 3, 38], [1, 3, 39], [1, 3, 40], [1, 3, 41], [1, 3, 42], [1, 3, 43], [1, 3, 44]],
    [[1, 3, 45], [1, 3, 46], [1, 3, 47], [1, 3, 48], [1, 3, 49], [1, 3, 50], [1, 3, 51]],
    [[1, 3, 52], [1, 3, 53], [1, 3, 54], [1, 3, 55], [1, 3, 56], [1, 3, 57], [1, 3, 58]],
    [[1, 3, 59], [1, 3, 60], [1, 3, 61], [1, 3, 62], [1, 3, 63], [1, 3, 64], [1, 3, 97]],
    [[1, 3, 98], [1, 3, 99], [1, 3, 100], [1, 3, 101], [1, 3, 102], [1, 3, 103], [1, 3, 104]],
    [[1, 3, 105], [1, 3, 106], [1, 3, 107], [1, 3, 108], [1, 3, 109], [1, 3, 110], [1, 3, 111]],
    [[1, 3, 112], [1, 3, 113], [1, 3, 114], [1, 3, 115], [1, 3, 116], [1, 3, 117], [1, 3, 118]],
    [[1, 3, 119], [1, 3, 120], [1, 3, 121], [1, 3, 122], [1, 3, 91], [1, 3, 92], [1, 3, 93]],
    [[1, 3, 94], [1, 3, 95], [1, 3, 96], [1, 3, 97], [1, 3, 98], [1, 3, 99], [1, 3, 100]],
    [[1, 3, 101], [1, 3, 102], [1, 3, 103], [1, 3, 104], [1, 3, 105], [1, 3, 106], [1, 3, 107]],
    [[1, 3, 108], [1, 3, 109], [1, 3, 110], [1, 3, 111], [1, 3, 112], [1, 3, 113], [1, 3, 114]],
    [[1, 3, 115], [1, 3, 116], [1, 3, 117], [1, 3, 118], [1, 3, 119], [1, 3, 120], [1, 3, 121]],
    [[1, 3, 122], [1, 3, 123], [1, 3, 124], [1, 3, 125], [1, 3, 126], [1, 3, 10629]],
    [[1, 3, 10630], [1, 3, 46], [1, 3, 12300], [1, 3, 12301], [1, 3, 12289], [1, 3, 12539]],
    [[1, 3, 12530], [1, 3, 12449], [1, 3, 12451], [1, 3, 12453], [1, 3, 12455], [1, 3, 12457]],
    [[1, 3, 12515], [1, 3, 12517], [1, 3, 12519], [1, 3, 12483], [1, 3, 12540], [1, 3, 12450]],
    [[1, 3, 12452], [1, 3, 12454], [1, 3, 12456], [1, 3, 12458], [1, 3, 12459], [1, 3, 12461]],
    [[1, 3, 12463], [1, 3, 12465], [1, 3, 12467], [1, 3, 12469], [1, 3, 12471], [1, 3, 12473]],
    [[1, 3, 12475], [1, 3, 12477], [1, 3, 12479], [1, 3, 12481], [1, 3, 12484], [1, 3, 12486]],
    [[1, 3, 12488], [1, 3, 12490], [1, 3, 12491], [1, 3, 12492], [1, 3, 12493], [1, 3, 12494]],
    [[1, 3, 12495], [1, 3, 12498], [1, 3, 12501], [1, 3, 12504], [1, 3, 12507], [1, 3, 12510]],
    [[1, 3, 12511], [1, 3, 12512], [1, 3, 12513], [1, 3, 12514], [1, 3, 12516], [1, 3, 12518]],
    [[1, 3, 12520], [1, 3, 12521], [1, 3, 12522], [1, 3, 12523], [1, 3, 12524], [1, 3, 12525]],
    [[1, 3, 12527], [1, 3, 12531], [1, 3, 12441], [1, 3, 12442], [1, 2], [1, 3, 4352]],
    [[1, 3, 4353], [1, 3, 4522], [1, 3, 4354], [1, 3, 4524], [1, 3, 4525], [1, 3, 4355]],
    [[1, 3, 4356], [1, 3, 4357], [1, 3, 4528], [1, 3, 4529], [1, 3, 4530], [1, 3, 4531]],
    [[1, 3, 4532], [1, 3, 4533], [1, 3, 4378], [1, 3, 4358], [1, 3, 4359], [1, 3, 4360]],
    [[1, 3, 4385], [1, 3, 4361], [1, 3, 4362], [1, 3, 4363], [1, 3, 4364], [1, 3, 4365]],
    [[1, 3, 4366], [1, 3, 4367], [1, 3, 4368], [1, 3, 4369], [1, 3, 4370], [1, 1], [3, 3, 4449]],
    [[1, 3, 4450], [1, 3, 4451], [1, 3, 4452], [1, 3, 4453], [1, 3, 4454], [1, 1], [2, 3, 4455]],
    [[1, 3, 4456], [1, 3, 4457], [1, 3, 4458], [1, 3, 4459], [1, 3, 4460], [1, 1], [2, 3, 4461]],
    [[1, 3, 4462], [1, 3, 4463], [1, 3, 4464], [1, 3, 4465], [1, 3, 4466], [1, 1], [2, 3, 4467]],
    [[1, 3, 4468], [1, 3, 4469], [1, 1], [3, 3, 162], [1, 3, 163], [1, 3, 172], [1, 3, 32, 772]],
    [[1, 3, 166], [1, 3, 165], [1, 3, 8361], [1, 1], [1, 3, 9474], [1, 3, 8592], [1, 3, 8593]],
    [[1, 3, 8594], [1, 3, 8595], [1, 3, 9632], [1, 3, 9675], [1, 1], [17, 0], [12, 1], [1, 0]],
    [[26, 1], [1, 0], [19, 1], [1, 0], [2, 1], [1, 0], [15, 1], [2, 0], [14, 1], [34, 0]],
    [[123, 1], [5, 0], [3, 1], [4, 0], [45, 1], [3, 0], [88, 1], [1, 0], [13, 1], [3, 0], [1, 1]],
    [[47, 0], [46, 1], [130, 0], [29, 1], [3, 0], [49, 1], [15, 0], [28, 1], [4, 0], [36, 1]],
    [[9, 0], [30, 1], [5, 0], [43, 1], [5, 0], [30, 1], [1, 0], [37, 1], [4, 0], [14, 1]],
    [[42, 3, 66600], [1, 3, 66601], [1, 3, 66602], [1, 3, 66603], [1, 3, 66604], [1, 3, 66605]],
    [[1, 3, 66606], [1, 3, 66607], [1, 3, 66608], [1, 3, 66609], [1, 3, 66610], [1, 3, 66611]],
    [[1, 3, 66612], [1, 3, 66613], [1, 3, 66614], [1, 3, 66615], [1, 3, 66616], [1, 3, 66617]],
    [[1, 3, 66618], [1, 3, 66619], [1, 3, 66620], [1, 3, 66621], [1, 3, 66622], [1, 3, 66623]],
    [[1, 3, 66624], [1, 3, 66625], [1, 3, 66626], [1, 3, 66627], [1, 3, 66628], [1, 3, 66629]],
    [[1, 3, 66630], [1, 3, 66631], [1, 3, 66632], [1, 3, 66633], [1, 3, 66634], [1, 3, 66635]],
    [[1, 3, 66636], [1, 3, 66637], [1, 3, 66638], [1, 3, 66639], [1, 0], [118, 1], [2, 0]],
    [[10, 1], [6, 3, 66776], [1, 3, 66777], [1, 3, 66778], [1, 3, 66779], [1, 3, 66780]],
    [[1, 3, 66781], [1, 3, 66782], [1, 3, 66783], [1, 3, 66784], [1, 3, 66785], [1, 3, 66786]],
    [[1, 3, 66787], [1, 3, 66788], [1, 3, 66789], [1, 3, 66790], [1, 3, 66791], [1, 3, 66792]],
    [[1, 3, 66793], [1, 3, 66794], [1, 3, 66795], [1, 3, 66796], [1, 3, 66797], [1, 3, 66798]],
    [[1, 3, 66799], [1, 3, 66800], [1, 3, 66801], [1, 3, 66802], [1, 3, 66803], [1, 3, 66804]],
    [[1, 3, 66805], [1, 3, 66806], [1, 3, 66807], [1, 3, 66808], [1, 3, 66809], [1, 3, 66810]],
    [[1, 3, 66811], [1, 1], [4, 0], [36, 1], [4, 0], [40, 1], [8, 0], [52, 1], [11, 0]],
    [[1, 3, 66967], [1, 3, 66968], [1, 3, 66969], [1, 3, 66970], [1, 3, 66971], [1, 3, 66972]],
    [[1, 3, 66973], [1, 3, 66974], [1, 3, 66975], [1, 3, 66976], [1, 3, 66977], [1, 1]],
    [[1, 3, 66979], [1, 3, 66980], [1, 3, 66981], [1, 3, 66982], [1, 3, 66983], [1, 3, 66984]],
    [[1, 3, 66985], [1, 3, 66986], [1, 3, 66987], [1, 3, 66988], [1, 3, 66989], [1, 3, 66990]],
    [[1, 3, 66991], [1, 3, 66992], [1, 3, 66993], [1, 1], [1, 3, 66995], [1, 3, 66996]],
    [[1, 3, 66997], [1, 3, 66998], [1, 3, 66999], [1, 3, 67000], [1, 3, 67001], [1, 1]],
    [[1, 3, 67003], [1, 3, 67004], [1, 1], [1, 0], [11, 1], [1, 0], [15, 1], [1, 0], [7, 1]],
    [[1, 0], [2, 1], [3, 0], [52, 1], [12, 0], [311, 1], [9, 0], [22, 1], [10, 0], [8, 1]],
    [[24, 0], [1, 3, 720], [1, 3, 721], [1, 3, 230], [1, 3, 665], [1, 3, 595], [1, 1]],
    [[1, 3, 675], [1, 3, 43878], [1, 3, 677], [1, 3, 676], [1, 3, 598], [1, 3, 599], [1, 3, 7569]],
    [[1, 3, 600], [1, 3, 606], [1, 3, 681], [1, 3, 612], [1, 3, 610], [1, 3, 608], [1, 3, 667]],
    [[1, 3, 295], [1, 3, 668], [1, 3, 615], [1, 3, 644], [1, 3, 682], [1, 3, 683], [1, 3, 620]],
    [[1, 3, 122628], [1, 3, 42894], [1, 3, 622], [1, 3, 122629], [1, 3, 654], [1, 3, 122630]],
    [[1, 3, 248], [1, 3, 630], [1, 3, 631], [1, 3, 113], [1, 3, 634], [1, 3, 122632], [1, 3, 637]],
    [[1, 3, 638], [1, 3, 640], [1, 3, 680], [1, 3, 678], [1, 3, 43879], [1, 3, 679], [1, 3, 648]],
    [[1, 3, 11377], [1, 1], [1, 3, 655], [1, 3, 673], [1, 3, 674], [1, 3, 664], [1, 3, 448]],
    [[1, 3, 449], [1, 3, 450], [1, 3, 122634], [1, 3, 122654], [1, 1], [69, 0], [6, 1], [2, 0]],
    [[1, 1], [1, 0], [44, 1], [1, 0], [2, 1], [3, 0], [1, 1], [2, 0], [23, 1], [1, 0], [72, 1]],
    [[8, 0], [9, 1], [48, 0], [19, 1], [1, 0], [2, 1], [5, 0], [33, 1], [3, 0], [27, 1], [5, 0]],
    [[27, 1], [38, 0], [56, 1], [4, 0], [20, 1], [2, 0], [50, 1], [1, 0], [2, 1], [5, 0], [8, 1]],
    [[1, 0], [3, 1], [1, 0], [29, 1], [2, 0], [3, 1], [4, 0], [10, 1], [7, 0], [9, 1], [7, 0]],
    [[64, 1], [32, 0], [39, 1], [4, 0], [12, 1], [9, 0], [54, 1], [3, 0], [29, 1], [2, 0]],
    [[27, 1], [5, 0], [26, 1], [7, 0], [4, 1], [12, 0], [7, 1], [80, 0], [73, 1], [55, 3, 68800]],
    [[1, 3, 68801], [1, 3, 68802], [1, 3, 68803], [1, 3, 68804], [1, 3, 68805], [1, 3, 68806]],
    [[1, 3, 68807], [1, 3, 68808], [1, 3, 68809], [1, 3, 68810], [1, 3, 68811], [1, 3, 68812]],
    [[1, 3, 68813], [1, 3, 68814], [1, 3, 68815], [1, 3, 68816], [1, 3, 68817], [1, 3, 68818]],
    [[1, 3, 68819], [1, 3, 68820], [1, 3, 68821], [1, 3, 68822], [1, 3, 68823], [1, 3, 68824]],
    [[1, 3, 68825], [1, 3, 68826], [1, 3, 68827], [1, 3, 68828], [1, 3, 68829], [1, 3, 68830]],
    [[1, 3, 68831], [1, 3, 68832], [1, 3, 68833], [1, 3, 68834], [1, 3, 68835], [1, 3, 68836]],
    [[1, 3, 68837], [1, 3, 68838], [1, 3, 68839], [1, 3, 68840], [1, 3, 68841], [1, 3, 68842]],
    [[1, 3, 68843], [1, 3, 68844], [1, 3, 68845], [1, 3, 68846], [1, 3, 68847], [1, 3, 68848]],
    [[1, 3, 68849], [1, 3, 68850], [1, 1], [13, 0], [51, 1], [7, 0], [46, 1], [8, 0], [10, 1]],
    [[6, 0], [16, 3, 68976], [1, 3, 68977], [1, 3, 68978], [1, 3, 68979], [1, 3, 68980]],
    [[1, 3, 68981], [1, 3, 68982], [1, 3, 68983], [1, 3, 68984], [1, 3, 68985], [1, 3, 68986]],
    [[1, 3, 68987], [1, 3, 68988], [1, 3, 68989], [1, 3, 68990], [1, 3, 68991], [1, 3, 68992]],
    [[1, 3, 68993], [1, 3, 68994], [1, 3, 68995], [1, 3, 68996], [1, 3, 68997], [1, 1], [3, 0]],
    [[29, 1], [8, 0], [2, 1], [208, 0], [31, 1], [1, 0], [42, 1], [1, 0], [3, 1], [2, 0], [2, 1]],
    [[16, 0], [6, 1], [8, 0], [9, 1], [33, 0], [46, 1], [8, 0], [42, 1], [22, 0], [26, 1]],
    [[38, 0], [28, 1], [20, 0], [23, 1], [9, 0], [78, 1], [4, 0], [36, 1], [9, 0], [62, 1]],
    [[1, 0], [5, 1], [13, 0], [25, 1], [7, 0], [10, 1], [6, 0], [53, 1], [1, 0], [18, 1], [8, 0]],
    [[39, 1], [9, 0], [96, 1], [1, 0], [20, 1], [11, 0], [18, 1], [1, 0], [47, 1], [62, 0]],
    [[7, 1], [1, 0], [1, 1], [1, 0], [4, 1], [1, 0], [15, 1], [1, 0], [11, 1], [6, 0], [59, 1]],
    [[5, 0], [10, 1], [6, 0], [4, 1], [1, 0], [8, 1], [2, 0], [2, 1], [2, 0], [22, 1], [1, 0]],
    [[7, 1], [1, 0], [2, 1], [1, 0], [5, 1], [1, 0], [10, 1], [2, 0], [2, 1], [2, 0], [3, 1]],
    [[2, 0], [1, 1], [6, 0], [1, 1], [5, 0], [7, 1], [2, 0], [7, 1], [3, 0], [5, 1], [11, 0]],
    [[10, 1], [1, 0], [1, 1], [2, 0], [1, 1], [1, 0], [38, 1], [1, 0], [10, 1], [1, 0], [1, 1]],
    [[2, 0], [1, 1], [1, 0], [4, 1], [1, 0], [10, 1], [1, 0], [2, 1], [8, 0], [2, 1], [29, 0]],
    [[92, 1], [1, 0], [5, 1], [30, 0], [72, 1], [8, 0], [10, 1], [166, 0], [54, 1], [2, 0]],
    [[38, 1], [34, 0], [69, 1], [11, 0], [10, 1], [6, 0], [13, 1], [19, 0], [58, 1], [6, 0]],
    [[10, 1], [6, 0], [20, 1], [28, 0], [27, 1], [2, 0], [15, 1], [4, 0], [23, 1], [185, 0]],
    [[60, 1], [100, 3, 71872], [1, 3, 71873], [1, 3, 71874], [1, 3, 71875], [1, 3, 71876]],
    [[1, 3, 71877], [1, 3, 71878], [1, 3, 71879], [1, 3, 71880], [1, 3, 71881], [1, 3, 71882]],
    [[1, 3, 71883], [1, 3, 71884], [1, 3, 71885], [1, 3, 71886], [1, 3, 71887], [1, 3, 71888]],
    [[1, 3, 71889], [1, 3, 71890], [1, 3, 71891], [1, 3, 71892], [1, 3, 71893], [1, 3, 71894]],
    [[1, 3, 71895], [1, 3, 71896], [1, 3, 71897], [1, 3, 71898], [1, 3, 71899], [1, 3, 71900]],
    [[1, 3, 71901], [1, 3, 71902], [1, 3, 71903], [1, 0], [51, 1], [12, 0], [8, 1], [2, 0]],
    [[1, 1], [2, 0], [8, 1], [1, 0], [2, 1], [1, 0], [30, 1], [1, 0], [2, 1], [2, 0], [12, 1]],
    [[9, 0], [10, 1], [70, 0], [8, 1], [2, 0], [46, 1], [2, 0], [11, 1], [27, 0], [72, 1], [8, 0]],
    [[83, 1], [13, 0], [73, 1], [7, 0], [10, 1], [86, 0], [8, 1], [88, 0], [34, 1], [14, 0]],
    [[10, 1], [6, 0], [9, 1], [1, 0], [45, 1], [1, 0], [14, 1], [10, 0], [29, 1], [3, 0], [32, 1]],
    [[2, 0], [22, 1], [1, 0], [14, 1], [73, 0], [7, 1], [1, 0], [2, 1], [1, 0], [44, 1], [3, 0]],
    [[1, 1], [1, 0], [2, 1], [1, 0], [9, 1], [8, 0], [10, 1], [6, 0], [6, 1], [1, 0], [2, 1]],
    [[1, 0], [37, 1], [1, 0], [2, 1], [1, 0], [6, 1], [7, 0], [10, 1], [6, 0], [44, 1], [4, 0]],
    [[10, 1], [246, 0], [25, 1], [7, 0], [17, 1], [1, 0], [41, 1], [3, 0], [29, 1], [85, 0]],
    [[1, 1], [15, 0], [50, 1], [13, 0], [923, 1], [102, 0], [111, 1], [1, 0], [5, 1], [11, 0]],
    [[196, 1], [2636, 0], [99, 1], [13, 0], [1072, 1], [16, 0], [22, 1], [10, 0], [3995, 1]],
    [[5, 0], [583, 1], [6841, 0], [58, 1], [1734, 0], [569, 1], [7, 0], [31, 1], [1, 0], [10, 1]],
    [[4, 0], [81, 1], [1, 0], [10, 1], [6, 0], [30, 1], [2, 0], [6, 1], [10, 0], [70, 1], [10, 0]],
    [[10, 1], [1, 0], [7, 1], [1, 0], [21, 1], [5, 0], [19, 1], [432, 0], [58, 1]],
    [[198, 3, 93792], [1, 3, 93793], [1, 3, 93794], [1, 3, 93795], [1, 3, 93796], [1, 3, 93797]],
    [[1, 3, 93798], [1, 3, 93799], [1, 3, 93800], [1, 3, 93801], [1, 3, 93802], [1, 3, 93803]],
    [[1, 3, 93804], [1, 3, 93805], [1, 3, 93806], [1, 3, 93807], [1, 3, 93808], [1, 3, 93809]],
    [[1, 3, 93810], [1, 3, 93811], [1, 3, 93812], [1, 3, 93813], [1, 3, 93814], [1, 3, 93815]],
    [[1, 3, 93816], [1, 3, 93817], [1, 3, 93818], [1, 3, 93819], [1, 3, 93820], [1, 3, 93821]],
    [[1, 3, 93822], [1, 3, 93823], [1, 0], [59, 1], [5, 3, 93883], [1, 3, 93884], [1, 3, 93885]],
    [[1, 3, 93886], [1, 3, 93887], [1, 3, 93888], [1, 3, 93889], [1, 3, 93890], [1, 3, 93891]],
    [[1, 3, 93892], [1, 3, 93893], [1, 3, 93894], [1, 3, 93895], [1, 3, 93896], [1, 3, 93897]],
    [[1, 3, 93898], [1, 3, 93899], [1, 3, 93900], [1, 3, 93901], [1, 3, 93902], [1, 3, 93903]],
    [[1, 3, 93904], [1, 3, 93905], [1, 3, 93906], [1, 3, 93907], [1, 1], [2, 0], [25, 1], [44, 0]],
    [[75, 1], [4, 0], [57, 1], [7, 0], [17, 1], [64, 0], [5, 1], [11, 0], [7, 1], [9, 0]],
    [[7382, 1], [41, 0], [32, 1], [97, 0], [115, 1], [8701, 0], [4, 1], [1, 0], [7, 1], [1, 0]],
    [[2, 1], [1, 0], [291, 1], [15, 0], [1, 1], [29, 0], [3, 1], [2, 0], [1, 1], [14, 0], [4, 1]],
    [[8, 0], [396, 1], [2308, 0], [107, 1], [5, 0], [13, 1], [3, 0], [9, 1], [7, 0], [10, 1]],
    [[2, 0], [4, 2], [4, 1], [3932, 0], [214, 3, 97], [1, 3, 98], [1, 3, 99], [1, 3, 100]],
    [[1, 3, 101], [1, 3, 102], [1, 3, 103], [1, 3, 104], [1, 3, 105], [1, 3, 106], [1, 3, 107]],
    [[1, 3, 108], [1, 3, 109], [1, 3, 110], [1, 3, 111], [1, 3, 112], [1, 3, 113], [1, 3, 114]],
    [[1, 3, 115], [1, 3, 116], [1, 3, 117], [1, 3, 118], [1, 3, 119], [1, 3, 120], [1, 3, 121]],
    [[1, 3, 122], [1, 3, 48], [1, 3, 49], [1, 3, 50], [1, 3, 51], [1, 3, 52], [1, 3, 53]],
    [[1, 3, 54], [1, 3, 55], [1, 3, 56], [1, 3, 57], [1, 0], [3, 1], [3, 0], [436, 1], [6, 0]],
    [[23, 1], [15, 0], [17, 1], [15, 0], [46, 1], [2, 0], [23, 1], [9, 0], [116, 1], [60, 0]],
    [[246, 1], [10, 0], [39, 1], [2, 0], [53, 3, 119127, 119141], [1, 3, 119128, 119141]],
    [[1, 3, 119128, 119141, 119150], [1, 3, 119128, 119141, 119151]],
    [[1, 3, 119128, 119141, 119152], [1, 3, 119128, 119141, 119153]],
    [[1, 3, 119128, 119141, 119154], [1, 0], [14, 2], [8, 0], [64, 3, 119225, 119141]],
    [[1, 3, 119226, 119141], [1, 3, 119225, 119141, 119150], [1, 3, 119226, 119141, 119150]],
    [[1, 3, 119225, 119141, 119151], [1, 3, 119226, 119141, 119151], [1, 0], [42, 1], [21, 0]],
    [[70, 1], [122, 0], [20, 1], [12, 0], [20, 1], [12, 0], [87, 1], [9, 0], [25, 1]],
    [[135, 3, 97], [1, 3, 98], [1, 3, 99], [1, 3, 100], [1, 3, 101], [1, 3, 102], [1, 3, 103]],
    [[1, 3, 104], [1, 3, 105], [1, 3, 106], [1, 3, 107], [1, 3, 108], [1, 3, 109], [1, 3, 110]],
    [[1, 3, 111], [1, 3, 112], [1, 3, 113], [1, 3, 114], [1, 3, 115], [1, 3, 116], [1, 3, 117]],
    [[1, 3, 118], [1, 3, 119], [1, 3, 120], [1, 3, 121], [1, 3, 122], [1, 3, 97], [1, 3, 98]],
    [[1, 3, 99], [1, 3, 100], [1, 3, 101], [1, 3, 102], [1, 3, 103], [1, 3, 104], [1, 3, 105]],
    [[1, 3, 106], [1, 3, 107], [1, 3, 108], [1, 3, 109], [1, 3, 110], [1, 3, 111], [1, 3, 112]],
    [[1, 3, 113], [1, 3, 114], [1, 3, 115], [1, 3, 116], [1, 3, 117], [1, 3, 118], [1, 3, 119]],
    [[1, 3, 120], [1, 3, 121], [1, 3, 122], [1, 3, 97], [1, 3, 98], [1, 3, 99], [1, 3, 100]],
    [[1, 3, 101], [1, 3, 102], [1, 3, 103], [1, 3, 104], [1, 3, 105], [1, 3, 106], [1, 3, 107]],
    [[1, 3, 108], [1, 3, 109], [1, 3, 110], [1, 3, 111], [1, 3, 112], [1, 3, 113], [1, 3, 114]],
    [[1, 3, 115], [1, 3, 116], [1, 3, 117], [1, 3, 118], [1, 3, 119], [1, 3, 120], [1, 3, 121]],
    [[1, 3, 122], [1, 3, 97], [1, 3, 98], [1, 3, 99], [1, 3, 100], [1, 3, 101], [1, 3, 102]],
    [[1, 3, 103], [1, 1], [1, 3, 105], [1, 3, 106], [1, 3, 107], [1, 3, 108], [1, 3, 109]],
    [[1, 3, 110], [1, 3, 111], [1, 3, 112], [1, 3, 113], [1, 3, 114], [1, 3, 115], [1, 3, 116]],
    [[1, 3, 117], [1, 3, 118], [1, 3, 119], [1, 3, 120], [1, 3, 121], [1, 3, 122], [1, 3, 97]],
    [[1, 3, 98], [1, 3, 99], [1, 3, 100], [1, 3, 101], [1, 3, 102], [1, 3, 103], [1, 3, 104]],
    [[1, 3, 105], [1, 3, 106], [1, 3, 107], [1, 3, 108], [1, 3, 109], [1, 3, 110], [1, 3, 111]],
    [[1, 3, 112], [1, 3, 113], [1, 3, 114], [1, 3, 115], [1, 3, 116], [1, 3, 117], [1, 3, 118]],
    [[1, 3, 119], [1, 3, 120], [1, 3, 121], [1, 3, 122], [1, 3, 97], [1, 3, 98], [1, 3, 99]],
    [[1, 3, 100], [1, 3, 101], [1, 3, 102], [1, 3, 103], [1, 3, 104], [1, 3, 105], [1, 3, 106]],
    [[1, 3, 107], [1, 3, 108], [1, 3, 109], [1, 3, 110], [1, 3, 111], [1, 3, 112], [1, 3, 113]],
    [[1, 3, 114], [1, 3, 115], [1, 3, 116], [1, 3, 117], [1, 3, 118], [1, 3, 119], [1, 3, 120]],
    [[1, 3, 121], [1, 3, 122], [1, 3, 97], [1, 1], [1, 3, 99], [1, 3, 100], [1, 1], [2, 3, 103]],
    [[1, 1], [2, 3, 106], [1, 3, 107], [1, 1], [2, 3, 110], [1, 3, 111], [1, 3, 112], [1, 3, 113]],
    [[1, 1], [1, 3, 115], [1, 3, 116], [1, 3, 117], [1, 3, 118], [1, 3, 119], [1, 3, 120]],
    [[1, 3, 121], [1, 3, 122], [1, 3, 97], [1, 3, 98], [1, 3, 99], [1, 3, 100], [1, 1]],
    [[1, 3, 102], [1, 1], [1, 3, 104], [1, 3, 105], [1, 3, 106], [1, 3, 107], [1, 3, 108]],
    [[1, 3, 109], [1, 3, 110], [1, 1], [1, 3, 112], [1, 3, 113], [1, 3, 114], [1, 3, 115]],
    [[1, 3, 116], [1, 3, 117], [1, 3, 118], [1, 3, 119], [1, 3, 120], [1, 3, 121], [1, 3, 122]],
    [[1, 3, 97], [1, 3, 98], [1, 3, 99], [1, 3, 100], [1, 3, 101], [1, 3, 102], [1, 3, 103]],
    [[1, 3, 104], [1, 3, 105], [1, 3, 106], [1, 3, 107], [1, 3, 108], [1, 3, 109], [1, 3, 110]],
    [[1, 3, 111], [1, 3, 112], [1, 3, 113], [1, 3, 114], [1, 3, 115], [1, 3, 116], [1, 3, 117]],
    [[1, 3, 118], [1, 3, 119], [1, 3, 120], [1, 3, 121], [1, 3, 122], [1, 3, 97], [1, 3, 98]],
    [[1, 3, 99], [1, 3, 100], [1, 3, 101], [1, 3, 102], [1, 3, 103], [1, 3, 104], [1, 3, 105]],
    [[1, 3, 106], [1, 3, 107], [1, 3, 108], [1, 3, 109], [1, 3, 110], [1, 3, 111], [1, 3, 112]],
    [[1, 3, 113], [1, 3, 114], [1, 3, 115], [1, 3, 116], [1, 3, 117], [1, 3, 118], [1, 3, 119]],
    [[1, 3, 120], [1, 3, 121], [1, 3, 122], [1, 3, 97], [1, 3, 98], [1, 1], [1, 3, 100]],
    [[1, 3, 101], [1, 3, 102], [1, 3, 103], [1, 1], [2, 3, 106], [1, 3, 107], [1, 3, 108]],
    [[1, 3, 109], [1, 3, 110], [1, 3, 111], [1, 3, 112], [1, 3, 113], [1, 1], [1, 3, 115]],
    [[1, 3, 116], [1, 3, 117], [1, 3, 118], [1, 3, 119], [1, 3, 120], [1, 3, 121], [1, 1]],
    [[1, 3, 97], [1, 3, 98], [1, 3, 99], [1, 3, 100], [1, 3, 101], [1, 3, 102], [1, 3, 103]],
    [[1, 3, 104], [1, 3, 105], [1, 3, 106], [1, 3, 107], [1, 3, 108], [1, 3, 109], [1, 3, 110]],
    [[1, 3, 111], [1, 3, 112], [1, 3, 113], [1, 3, 114], [1, 3, 115], [1, 3, 116], [1, 3, 117]],
    [[1, 3, 118], [1, 3, 119], [1, 3, 120], [1, 3, 121], [1, 3, 122], [1, 3, 97], [1, 3, 98]],
    [[1, 1], [1, 3, 100], [1, 3, 101], [1, 3, 102], [1, 3, 103], [1, 1], [1, 3, 105], [1, 3, 106]],
    [[1, 3, 107], [1, 3, 108], [1, 3, 109], [1, 1], [1, 3, 111], [1, 1], [3, 3, 115], [1, 3, 116]],
    [[1, 3, 117], [1, 3, 118], [1, 3, 119], [1, 3, 120], [1, 3, 121], [1, 1], [1, 3, 97]],
    [[1, 3, 98], [1, 3, 99], [1, 3, 100], [1, 3, 101], [1, 3, 102], [1, 3, 103], [1, 3, 104]],
    [[1, 3, 105], [1, 3, 106], [1, 3, 107], [1, 3, 108], [1, 3, 109], [1, 3, 110], [1, 3, 111]],
    [[1, 3, 112], [1, 3, 113], [1, 3, 114], [1, 3, 115], [1, 3, 116], [1, 3, 117], [1, 3, 118]],
    [[1, 3, 119], [1, 3, 120], [1, 3, 121], [1, 3, 122], [1, 3, 97], [1, 3, 98], [1, 3, 99]],
    [[1, 3, 100], [1, 3, 101], [1, 3, 102], [1, 3, 103], [1, 3, 104], [1, 3, 105], [1, 3, 106]],
    [[1, 3, 107], [1, 3, 108], [1, 3, 109], [1, 3, 110], [1, 3, 111], [1, 3, 112], [1, 3, 113]],
    [[1, 3, 114], [1, 3, 115], [1, 3, 116], [1, 3, 117], [1, 3, 118], [1, 3, 119], [1, 3, 120]],
    [[1, 3, 121], [1, 3, 122], [1, 3, 97], [1, 3, 98], [1, 3, 99], [1, 3, 100], [1, 3, 101]],
    [[1, 3, 102], [1, 3, 103], [1, 3, 104], [1, 3, 105], [1, 3, 106], [1, 3, 107], [1, 3, 108]],
    [[1, 3, 109], [1, 3, 110], [1, 3, 111], [1, 3, 112], [1, 3, 113], [1, 3, 114], [1, 3, 115]],
    [[1, 3, 116], [1, 3, 117], [1, 3, 118], [1, 3, 119], [1, 3, 120], [1, 3, 121], [1, 3, 122]],
    [[1, 3, 97], [1, 3, 98], [1, 3, 99], [1, 3, 100], [1, 3, 101], [1, 3, 102], [1, 3, 103]],
    [[1, 3, 104], [1, 3, 105], [1, 3, 106], [1, 3, 107], [1, 3, 108], [1, 3, 109], [1, 3, 110]],
    [[1, 3, 111], [1, 3, 112], [1, 3, 113], [1, 3, 114], [1, 3, 115], [1, 3, 116], [1, 3, 117]],
    [[1, 3, 118], [1, 3, 119], [1, 3, 120], [1, 3, 121], [1, 3, 122], [1, 3, 97], [1, 3, 98]],
    [[1, 3, 99], [1, 3, 100], [1, 3, 101], [1, 3, 102], [1, 3, 103], [1, 3, 104], [1, 3, 105]],
    [[1, 3, 106], [1, 3, 107], [1, 3, 108], [1, 3, 109], [1, 3, 110], [1, 3, 111], [1, 3, 112]],
    [[1, 3, 113], [1, 3, 114], [1, 3, 115], [1, 3, 116], [1, 3, 117], [1, 3, 118], [1, 3, 119]],
    [[1, 3, 120], [1, 3, 121], [1, 3, 122], [1, 3, 97], [1, 3, 98], [1, 3, 99], [1, 3, 100]],
    [[1, 3, 101], [1, 3, 102], [1, 3, 103], [1, 3, 104], [1, 3, 105], [1, 3, 106], [1, 3, 107]],
    [[1, 3, 108], [1, 3, 109], [1, 3, 110], [1, 3, 111], [1, 3, 112], [1, 3, 113], [1, 3, 114]],
    [[1, 3, 115], [1, 3, 116], [1, 3, 117], [1, 3, 118], [1, 3, 119], [1, 3, 120], [1, 3, 121]],
    [[1, 3, 122], [1, 3, 97], [1, 3, 98], [1, 3, 99], [1, 3, 100], [1, 3, 101], [1, 3, 102]],
    [[1, 3, 103], [1, 3, 104], [1, 3, 105], [1, 3, 106], [1, 3, 107], [1, 3, 108], [1, 3, 109]],
    [[1, 3, 110], [1, 3, 111], [1, 3, 112], [1, 3, 113], [1, 3, 114], [1, 3, 115], [1, 3, 116]],
    [[1, 3, 117], [1, 3, 118], [1, 3, 119], [1, 3, 120], [1, 3, 121], [1, 3, 122], [1, 3, 97]],
    [[1, 3, 98], [1, 3, 99], [1, 3, 100], [1, 3, 101], [1, 3, 102], [1, 3, 103], [1, 3, 104]],
    [[1, 3, 105], [1, 3, 106], [1, 3, 107], [1, 3, 108], [1, 3, 109], [1, 3, 110], [1, 3, 111]],
    [[1, 3, 112], [1, 3, 113], [1, 3, 114], [1, 3, 115], [1, 3, 116], [1, 3, 117], [1, 3, 118]],
    [[1, 3, 119], [1, 3, 120], [1, 3, 121], [1, 3, 122], [1, 3, 97], [1, 3, 98], [1, 3, 99]],
    [[1, 3, 100], [1, 3, 101], [1, 3, 102], [1, 3, 103], [1, 3, 104], [1, 3, 105], [1, 3, 106]],
    [[1, 3, 107], [1, 3, 108], [1, 3, 109], [1, 3, 110], [1, 3, 111], [1, 3, 112], [1, 3, 113]],
    [[1, 3, 114], [1, 3, 115], [1, 3, 116], [1, 3, 117], [1, 3, 118], [1, 3, 119], [1, 3, 120]],
    [[1, 3, 121], [1, 3, 122], [1, 3, 97], [1, 3, 98], [1, 3, 99], [1, 3, 100], [1, 3, 101]],
    [[1, 3, 102], [1, 3, 103], [1, 3, 104], [1, 3, 105], [1, 3, 106], [1, 3, 107], [1, 3, 108]],
    [[1, 3, 109], [1, 3, 110], [1, 3, 111], [1, 3, 112], [1, 3, 113], [1, 3, 114], [1, 3, 115]],
    [[1, 3, 116], [1, 3, 117], [1, 3, 118], [1, 3, 119], [1, 3, 120], [1, 3, 121], [1, 3, 122]],
    [[1, 3, 97], [1, 3, 98], [1, 3, 99], [1, 3, 100], [1, 3, 101], [1, 3, 102], [1, 3, 103]],
    [[1, 3, 104], [1, 3, 105], [1, 3, 106], [1, 3, 107], [1, 3, 108], [1, 3, 109], [1, 3, 110]],
    [[1, 3, 111], [1, 3, 112], [1, 3, 113], [1, 3, 114], [1, 3, 115], [1, 3, 116], [1, 3, 117]],
    [[1, 3, 118], [1, 3, 119], [1, 3, 120], [1, 3, 121], [1, 3, 122], [1, 3, 97], [1, 3, 98]],
    [[1, 3, 99], [1, 3, 100], [1, 3, 101], [1, 3, 102], [1, 3, 103], [1, 3, 104], [1, 3, 105]],
    [[1, 3, 106], [1, 3, 107], [1, 3, 108], [1, 3, 109], [1, 3, 110], [1, 3, 111], [1, 3, 112]],
    [[1, 3, 113], [1, 3, 114], [1, 3, 115], [1, 3, 116], [1, 3, 117], [1, 3, 118], [1, 3, 119]],
    [[1, 3, 120], [1, 3, 121], [1, 3, 122], [1, 3, 97], [1, 3, 98], [1, 3, 99], [1, 3, 100]],
    [[1, 3, 101], [1, 3, 102], [1, 3, 103], [1, 3, 104], [1, 3, 105], [1, 3, 106], [1, 3, 107]],
    [[1, 3, 108], [1, 3, 109], [1, 3, 110], [1, 3, 111], [1, 3, 112], [1, 3, 113], [1, 3, 114]],
    [[1, 3, 115], [1, 3, 116], [1, 3, 117], [1, 3, 118], [1, 3, 119], [1, 3, 120], [1, 3, 121]],
    [[1, 3, 122], [1, 3, 305], [1, 3, 567], [1, 1], [2, 3, 945], [1, 3, 946], [1, 3, 947]],
    [[1, 3, 948], [1, 3, 949], [1, 3, 950], [1, 3, 951], [1, 3, 952], [1, 3, 953], [1, 3, 954]],
    [[1, 3, 955], [1, 3, 956], [1, 3, 957], [1, 3, 958], [1, 3, 959], [1, 3, 960], [1, 3, 961]],
    [[1, 3, 952], [1, 3, 963], [1, 3, 964], [1, 3, 965], [1, 3, 966], [1, 3, 967], [1, 3, 968]],
    [[1, 3, 969], [1, 3, 8711], [1, 3, 945], [1, 3, 946], [1, 3, 947], [1, 3, 948], [1, 3, 949]],
    [[1, 3, 950], [1, 3, 951], [1, 3, 952], [1, 3, 953], [1, 3, 954], [1, 3, 955], [1, 3, 956]],
    [[1, 3, 957], [1, 3, 958], [1, 3, 959], [1, 3, 960], [1, 3, 961], [1, 3, 963], [2, 3, 964]],
    [[1, 3, 965], [1, 3, 966], [1, 3, 967], [1, 3, 968], [1, 3, 969], [1, 3, 8706], [1, 3, 949]],
    [[1, 3, 952], [1, 3, 954], [1, 3, 966], [1, 3, 961], [1, 3, 960], [1, 3, 945], [1, 3, 946]],
    [[1, 3, 947], [1, 3, 948], [1, 3, 949], [1, 3, 950], [1, 3, 951], [1, 3, 952], [1, 3, 953]],
    [[1, 3, 954], [1, 3, 955], [1, 3, 956], [1, 3, 957], [1, 3, 958], [1, 3, 959], [1, 3, 960]],
    [[1, 3, 961], [1, 3, 952], [1, 3, 963], [1, 3, 964], [1, 3, 965], [1, 3, 966], [1, 3, 967]],
    [[1, 3, 968], [1, 3, 969], [1, 3, 8711], [1, 3, 945], [1, 3, 946], [1, 3, 947], [1, 3, 948]],
    [[1, 3, 949], [1, 3, 950], [1, 3, 951], [1, 3, 952], [1, 3, 953], [1, 3, 954], [1, 3, 955]],
    [[1, 3, 956], [1, 3, 957], [1, 3, 958], [1, 3, 959], [1, 3, 960], [1, 3, 961], [1, 3, 963]],
    [[2, 3, 964], [1, 3, 965], [1, 3, 966], [1, 3, 967], [1, 3, 968], [1, 3, 969], [1, 3, 8706]],
    [[1, 3, 949], [1, 3, 952], [1, 3, 954], [1, 3, 966], [1, 3, 961], [1, 3, 960], [1, 3, 945]],
    [[1, 3, 946], [1, 3, 947], [1, 3, 948], [1, 3, 949], [1, 3, 950], [1, 3, 951], [1, 3, 952]],
    [[1, 3, 953], [1, 3, 954], [1, 3, 955], [1, 3, 956], [1, 3, 957], [1, 3, 958], [1, 3, 959]],
    [[1, 3, 960], [1, 3, 961], [1, 3, 952], [1, 3, 963], [1, 3, 964], [1, 3, 965], [1, 3, 966]],
    [[1, 3, 967], [1, 3, 968], [1, 3, 969], [1, 3, 8711], [1, 3, 945], [1, 3, 946], [1, 3, 947]],
    [[1, 3, 948], [1, 3, 949], [1, 3, 950], [1, 3, 951], [1, 3, 952], [1, 3, 953], [1, 3, 954]],
    [[1, 3, 955], [1, 3, 956], [1, 3, 957], [1, 3, 958], [1, 3, 959], [1, 3, 960], [1, 3, 961]],
    [[1, 3, 963], [2, 3, 964], [1, 3, 965], [1, 3, 966], [1, 3, 967], [1, 3, 968], [1, 3, 969]],
    [[1, 3, 8706], [1, 3, 949], [1, 3, 952], [1, 3, 954], [1, 3, 966], [1, 3, 961], [1, 3, 960]],
    [[1, 3, 945], [1, 3, 946], [1, 3, 947], [1, 3, 948], [1, 3, 949], [1, 3, 950], [1, 3, 951]],
    [[1, 3, 952], [1, 3, 953], [1, 3, 954], [1, 3, 955], [1, 3, 956], [1, 3, 957], [1, 3, 958]],
    [[1, 3, 959], [1, 3, 960], [1, 3, 961], [1, 3, 952], [1, 3, 963], [1, 3, 964], [1, 3, 965]],
    [[1, 3, 966], [1, 3, 967], [1, 3, 968], [1, 3, 969], [1, 3, 8711], [1, 3, 945], [1, 3, 946]],
    [[1, 3, 947], [1, 3, 948], [1, 3, 949], [1, 3, 950], [1, 3, 951], [1, 3, 952], [1, 3, 953]],
    [[1, 3, 954], [1, 3, 955], [1, 3, 956], [1, 3, 957], [1, 3, 958], [1, 3, 959], [1, 3, 960]],
    [[1, 3, 961], [1, 3, 963], [2, 3, 964], [1, 3, 965], [1, 3, 966], [1, 3, 967], [1, 3, 968]],
    [[1, 3, 969], [1, 3, 8706], [1, 3, 949], [1, 3, 952], [1, 3, 954], [1, 3, 966], [1, 3, 961]],
    [[1, 3, 960], [1, 3, 945], [1, 3, 946], [1, 3, 947], [1, 3, 948], [1, 3, 949], [1, 3, 950]],
    [[1, 3, 951], [1, 3, 952], [1, 3, 953], [1, 3, 954], [1, 3, 955], [1, 3, 956], [1, 3, 957]],
    [[1, 3, 958], [1, 3, 959], [1, 3, 960], [1, 3, 961], [1, 3, 952], [1, 3, 963], [1, 3, 964]],
    [[1, 3, 965], [1, 3, 966], [1, 3, 967], [1, 3, 968], [1, 3, 969], [1, 3, 8711], [1, 3, 945]],
    [[1, 3, 946], [1, 3, 947], [1, 3, 948], [1, 3, 949], [1, 3, 950], [1, 3, 951], [1, 3, 952]],
    [[1, 3, 953], [1, 3, 954], [1, 3, 955], [1, 3, 956], [1, 3, 957], [1, 3, 958], [1, 3, 959]],
    [[1, 3, 960], [1, 3, 961], [1, 3, 963], [2, 3, 964], [1, 3, 965], [1, 3, 966], [1, 3, 967]],
    [[1, 3, 968], [1, 3, 969], [1, 3, 8706], [1, 3, 949], [1, 3, 952], [1, 3, 954], [1, 3, 966]],
    [[1, 3, 961], [1, 3, 960], [1, 3, 989], [2, 1], [2, 3, 48], [1, 3, 49], [1, 3, 50]],
    [[1, 3, 51], [1, 3, 52], [1, 3, 53], [1, 3, 54], [1, 3, 55], [1, 3, 56], [1, 3, 57]],
    [[1, 3, 48], [1, 3, 49], [1, 3, 50], [1, 3, 51], [1, 3, 52], [1, 3, 53], [1, 3, 54]],
    [[1, 3, 55], [1, 3, 56], [1, 3, 57], [1, 3, 48], [1, 3, 49], [1, 3, 50], [1, 3, 51]],
    [[1, 3, 52], [1, 3, 53], [1, 3, 54], [1, 3, 55], [1, 3, 56], [1, 3, 57], [1, 3, 48]],
    [[1, 3, 49], [1, 3, 50], [1, 3, 51], [1, 3, 52], [1, 3, 53], [1, 3, 54], [1, 3, 55]],
    [[1, 3, 56], [1, 3, 57], [1, 3, 48], [1, 3, 49], [1, 3, 50], [1, 3, 51], [1, 3, 52]],
    [[1, 3, 53], [1, 3, 54], [1, 3, 55], [1, 3, 56], [1, 3, 57], [1, 0], [652, 1], [15, 0]],
    [[5, 1], [1, 0], [15, 1], [1104, 0], [31, 1], [6, 0], [6, 1], [213, 0], [7, 1], [1, 0]],
    [[17, 1], [2, 0], [7, 1], [1, 0], [2, 1], [1, 0], [5, 1], [5, 3, 1072], [1, 3, 1073]],
    [[1, 3, 1074], [1, 3, 1075], [1, 3, 1076], [1, 3, 1077], [1, 3, 1078], [1, 3, 1079]],
    [[1, 3, 1080], [1, 3, 1082], [1, 3, 1083], [1, 3, 1084], [1, 3, 1086], [1, 3, 1087]],
    [[1, 3, 1088], [1, 3, 1089], [1, 3, 1090], [1, 3, 1091], [1, 3, 1092], [1, 3, 1093]],
    [[1, 3, 1094], [1, 3, 1095], [1, 3, 1096], [1, 3, 1099], [1, 3, 1101], [1, 3, 1102]],
    [[1, 3, 42633], [1, 3, 1241], [1, 3, 1110], [1, 3, 1112], [1, 3, 1257], [1, 3, 1199]],
    [[1, 3, 1231], [1, 3, 1072], [1, 3, 1073], [1, 3, 1074], [1, 3, 1075], [1, 3, 1076]],
    [[1, 3, 1077], [1, 3, 1078], [1, 3, 1079], [1, 3, 1080], [1, 3, 1082], [1, 3, 1083]],
    [[1, 3, 1086], [1, 3, 1087], [1, 3, 1089], [1, 3, 1091], [1, 3, 1092], [1, 3, 1093]],
    [[1, 3, 1094], [1, 3, 1095], [1, 3, 1096], [1, 3, 1098], [1, 3, 1099], [1, 3, 1169]],
    [[1, 3, 1110], [1, 3, 1109], [1, 3, 1119], [1, 3, 1195], [1, 3, 42577], [1, 3, 1201], [1, 1]],
    [[33, 0], [1, 1], [112, 0], [45, 1], [3, 0], [14, 1], [2, 0], [10, 1], [4, 0], [2, 1]],
    [[320, 0], [31, 1], [17, 0], [58, 1], [5, 0], [1, 1], [464, 0], [42, 1], [214, 0], [43, 1]],
    [[4, 0], [1, 1], [192, 0], [31, 1], [1, 0], [22, 1], [8, 0], [2, 1], [224, 0], [7, 1], [1, 0]],
    [[4, 1], [1, 0], [2, 1], [1, 0], [15, 1], [1, 0], [197, 1], [2, 0], [16, 1], [41, 3, 125218]],
    [[1, 3, 125219], [1, 3, 125220], [1, 3, 125221], [1, 3, 125222], [1, 3, 125223]],
    [[1, 3, 125224], [1, 3, 125225], [1, 3, 125226], [1, 3, 125227], [1, 3, 125228]],
    [[1, 3, 125229], [1, 3, 125230], [1, 3, 125231], [1, 3, 125232], [1, 3, 125233]],
    [[1, 3, 125234], [1, 3, 125235], [1, 3, 125236], [1, 3, 125237], [1, 3, 125238]],
    [[1, 3, 125239], [1, 3, 125240], [1, 3, 125241], [1, 3, 125242], [1, 3, 125243]],
    [[1, 3, 125244], [1, 3, 125245], [1, 3, 125246], [1, 3, 125247], [1, 3, 125248]],
    [[1, 3, 125249], [1, 3, 125250], [1, 3, 125251], [1, 0], [42, 1], [4, 0], [10, 1], [4, 0]],
    [[2, 1], [785, 0], [68, 1], [76, 0], [61, 1], [194, 3, 1575], [1, 3, 1576], [1, 3, 1580]],
    [[1, 3, 1583], [1, 1], [1, 3, 1608], [1, 3, 1586], [1, 3, 1581], [1, 3, 1591], [1, 3, 1610]],
    [[1, 3, 1603], [1, 3, 1604], [1, 3, 1605], [1, 3, 1606], [1, 3, 1587], [1, 3, 1593]],
    [[1, 3, 1601], [1, 3, 1589], [1, 3, 1602], [1, 3, 1585], [1, 3, 1588], [1, 3, 1578]],
    [[1, 3, 1579], [1, 3, 1582], [1, 3, 1584], [1, 3, 1590], [1, 3, 1592], [1, 3, 1594]],
    [[1, 3, 1646], [1, 3, 1722], [1, 3, 1697], [1, 3, 1647], [1, 1], [1, 3, 1576], [1, 3, 1580]],
    [[1, 1], [1, 3, 1607], [1, 1], [2, 3, 1581], [1, 1], [1, 3, 1610], [1, 3, 1603], [1, 3, 1604]],
    [[1, 3, 1605], [1, 3, 1606], [1, 3, 1587], [1, 3, 1593], [1, 3, 1601], [1, 3, 1589]],
    [[1, 3, 1602], [1, 1], [1, 3, 1588], [1, 3, 1578], [1, 3, 1579], [1, 3, 1582], [1, 1]],
    [[1, 3, 1590], [1, 1], [1, 3, 1594], [1, 1], [6, 3, 1580], [1, 1], [4, 3, 1581], [1, 1]],
    [[1, 3, 1610], [1, 1], [1, 3, 1604], [1, 1], [1, 3, 1606], [1, 3, 1587], [1, 3, 1593], [1, 1]],
    [[1, 3, 1589], [1, 3, 1602], [1, 1], [1, 3, 1588], [1, 1], [2, 3, 1582], [1, 1], [1, 3, 1590]],
    [[1, 1], [1, 3, 1594], [1, 1], [1, 3, 1722], [1, 1], [1, 3, 1647], [1, 1], [1, 3, 1576]],
    [[1, 3, 1580], [1, 1], [1, 3, 1607], [1, 1], [2, 3, 1581], [1, 3, 1591], [1, 3, 1610]],
    [[1, 3, 1603], [1, 1], [1, 3, 1605], [1, 3, 1606], [1, 3, 1587], [1, 3, 1593], [1, 3, 1601]],
    [[1, 3, 1589], [1, 3, 1602], [1, 1], [1, 3, 1588], [1, 3, 1578], [1, 3, 1579], [1, 3, 1582]],
    [[1, 1], [1, 3, 1590], [1, 3, 1592], [1, 3, 1594], [1, 3, 1646], [1, 1], [1, 3, 1697], [1, 1]],
    [[1, 3, 1575], [1, 3, 1576], [1, 3, 1580], [1, 3, 1583], [1, 3, 1607], [1, 3, 1608]],
    [[1, 3, 1586], [1, 3, 1581], [1, 3, 1591], [1, 3, 1610], [1, 1], [1, 3, 1604], [1, 3, 1605]],
    [[1, 3, 1606], [1, 3, 1587], [1, 3, 1593], [1, 3, 1601], [1, 3, 1589], [1, 3, 1602]],
    [[1, 3, 1585], [1, 3, 1588], [1, 3, 1578], [1, 3, 1579], [1, 3, 1582], [1, 3, 1584]],
    [[1, 3, 1590], [1, 3, 1592], [1, 3, 1594], [1, 1], [5, 3, 1576], [1, 3, 1580], [1, 3, 1583]],
    [[1, 1], [1, 3, 1608], [1, 3, 1586], [1, 3, 1581], [1, 3, 1591], [1, 3, 1610], [1, 1]],
    [[1, 3, 1604], [1, 3, 1605], [1, 3, 1606], [1, 3, 1587], [1, 3, 1593], [1, 3, 1601]],
    [[1, 3, 1589], [1, 3, 1602], [1, 3, 1585], [1, 3, 1588], [1, 3, 1578], [1, 3, 1579]],
    [[1, 3, 1582], [1, 3, 1584], [1, 3, 1590], [1, 3, 1592], [1, 3, 1594], [1, 1], [52, 0]],
    [[2, 1], [270, 0], [44, 1], [4, 0], [100, 1], [12, 0], [15, 1], [2, 0], [15, 1], [1, 0]],
    [[15, 1], [1, 0], [37, 1], [11, 3, 48, 44], [1, 3, 49, 44], [1, 3, 50, 44], [1, 3, 51, 44]],
    [[1, 3, 52, 44], [1, 3, 53, 44], [1, 3, 54, 44], [1, 3, 55, 44], [1, 3, 56, 44]],
    [[1, 3, 57, 44], [1, 0], [5, 3, 40, 97, 41], [1, 3, 40, 98, 41], [1, 3, 40, 99, 41]],
    [[1, 3, 40, 100, 41], [1, 3, 40, 101, 41], [1, 3, 40, 102, 41], [1, 3, 40, 103, 41]],
    [[1, 3, 40, 104, 41], [1, 3, 40, 105, 41], [1, 3, 40, 106, 41], [1, 3, 40, 107, 41]],
    [[1, 3, 40, 108, 41], [1, 3, 40, 109, 41], [1, 3, 40, 110, 41], [1, 3, 40, 111, 41]],
    [[1, 3, 40, 112, 41], [1, 3, 40, 113, 41], [1, 3, 40, 114, 41], [1, 3, 40, 115, 41]],
    [[1, 3, 40, 116, 41], [1, 3, 40, 117, 41], [1, 3, 40, 118, 41], [1, 3, 40, 119, 41]],
    [[1, 3, 40, 120, 41], [1, 3, 40, 121, 41], [1, 3, 40, 122, 41], [1, 3, 12308, 115, 12309]],
    [[1, 3, 99], [1, 3, 114], [1, 3, 99, 100], [1, 3, 119, 122], [1, 0], [1, 3, 97], [1, 3, 98]],
    [[1, 3, 99], [1, 3, 100], [1, 3, 101], [1, 3, 102], [1, 3, 103], [1, 3, 104], [1, 3, 105]],
    [[1, 3, 106], [1, 3, 107], [1, 3, 108], [1, 3, 109], [1, 3, 110], [1, 3, 111], [1, 3, 112]],
    [[1, 3, 113], [1, 3, 114], [1, 3, 115], [1, 3, 116], [1, 3, 117], [1, 3, 118], [1, 3, 119]],
    [[1, 3, 120], [1, 3, 121], [1, 3, 122], [1, 3, 104, 118], [1, 3, 109, 118], [1, 3, 115, 100]],
    [[1, 3, 115, 115], [1, 3, 112, 112, 118], [1, 3, 119, 99], [1, 0], [26, 3, 109, 99]],
    [[1, 3, 109, 100], [1, 3, 109, 114], [1, 0], [35, 3, 100, 106], [1, 0], [29, 1], [56, 0]],
    [[26, 3, 12411, 12363], [1, 3, 12467, 12467], [1, 3, 12469], [1, 1], [13, 3, 25163]],
    [[1, 3, 23383], [1, 3, 21452], [1, 3, 12487], [1, 3, 20108], [1, 3, 22810], [1, 3, 35299]],
    [[1, 3, 22825], [1, 3, 20132], [1, 3, 26144], [1, 3, 28961], [1, 3, 26009], [1, 3, 21069]],
    [[1, 3, 24460], [1, 3, 20877], [1, 3, 26032], [1, 3, 21021], [1, 3, 32066], [1, 3, 29983]],
    [[1, 3, 36009], [1, 3, 22768], [1, 3, 21561], [1, 3, 28436], [1, 3, 25237], [1, 3, 25429]],
    [[1, 3, 19968], [1, 3, 19977], [1, 3, 36938], [1, 3, 24038], [1, 3, 20013], [1, 3, 21491]],
    [[1, 3, 25351], [1, 3, 36208], [1, 3, 25171], [1, 3, 31105], [1, 3, 31354], [1, 3, 21512]],
    [[1, 3, 28288], [1, 3, 26377], [1, 3, 26376], [1, 3, 30003], [1, 3, 21106], [1, 3, 21942]],
    [[1, 3, 37197], [1, 1], [4, 3, 12308, 26412, 12309], [1, 3, 12308, 19977, 12309]],
    [[1, 3, 12308, 20108, 12309], [1, 3, 12308, 23433, 12309], [1, 3, 12308, 28857, 12309]],
    [[1, 3, 12308, 25171, 12309], [1, 3, 12308, 30423, 12309], [1, 3, 12308, 21213, 12309]],
    [[1, 3, 12308, 25943, 12309], [1, 1], [7, 3, 24471], [1, 3, 21487], [1, 1], [14, 0], [6, 1]],
    [[154, 0], [985, 1], [3, 0], [17, 1], [3, 0], [13, 1], [3, 0], [218, 1], [6, 0], [12, 1]],
    [[4, 0], [1, 1], [15, 0], [12, 1], [4, 0], [56, 1], [8, 0], [10, 1], [6, 0], [40, 1], [8, 0]],
    [[30, 1], [2, 0], [12, 1], [4, 0], [2, 1], [14, 0], [9, 1], [39, 0], [344, 1], [8, 0]],
    [[14, 1], [2, 0], [13, 1], [3, 0], [11, 1], [3, 0], [57, 1], [1, 0], [1, 1], [4, 0], [16, 1]],
    [[2, 0], [12, 1], [4, 0], [10, 1], [7, 0], [147, 1], [1, 0], [92, 3, 48], [1, 3, 49]],
    [[1, 3, 50], [1, 3, 51], [1, 3, 52], [1, 3, 53], [1, 3, 54], [1, 3, 55], [1, 3, 56]],
    [[1, 3, 57], [1, 0], [1, 1], [1029, 0], [42720, 1], [32, 0], [4382, 1], [2, 0], [5774, 1]],
    [[2, 0], [7473, 1], [15, 0], [622, 1], [2466, 3, 20029], [1, 3, 20024], [1, 3, 20033]],
    [[1, 3, 131362], [1, 3, 20320], [1, 3, 20398], [1, 3, 20411], [1, 3, 20482], [1, 3, 20602]],
    [[1, 3, 20633], [1, 3, 20711], [1, 3, 20687], [1, 3, 13470], [1, 3, 132666], [1, 3, 20813]],
    [[1, 3, 20820], [1, 3, 20836], [1, 3, 20855], [1, 3, 132380], [1, 3, 13497], [1, 3, 20839]],
    [[1, 3, 20877], [1, 3, 132427], [1, 3, 20887], [1, 3, 20900], [1, 3, 20172], [1, 3, 20908]],
    [[1, 3, 20917], [1, 3, 168415], [1, 3, 20981], [1, 3, 20995], [1, 3, 13535], [1, 3, 21051]],
    [[1, 3, 21062], [1, 3, 21106], [1, 3, 21111], [1, 3, 13589], [1, 3, 21191], [1, 3, 21193]],
    [[1, 3, 21220], [1, 3, 21242], [1, 3, 21253], [1, 3, 21254], [1, 3, 21271], [1, 3, 21321]],
    [[1, 3, 21329], [1, 3, 21338], [1, 3, 21363], [1, 3, 21373], [1, 3, 21375], [3, 3, 133676]],
    [[1, 3, 28784], [1, 3, 21450], [1, 3, 21471], [1, 3, 133987], [1, 3, 21483], [1, 3, 21489]],
    [[1, 3, 21510], [1, 3, 21662], [1, 3, 21560], [1, 3, 21576], [1, 3, 21608], [1, 3, 21666]],
    [[1, 3, 21750], [1, 3, 21776], [1, 3, 21843], [1, 3, 21859], [1, 3, 21892], [2, 3, 21913]],
    [[1, 3, 21931], [1, 3, 21939], [1, 3, 21954], [1, 3, 22294], [1, 3, 22022], [1, 3, 22295]],
    [[1, 3, 22097], [1, 3, 22132], [1, 3, 20999], [1, 3, 22766], [1, 3, 22478], [1, 3, 22516]],
    [[1, 3, 22541], [1, 3, 22411], [1, 3, 22578], [1, 3, 22577], [1, 3, 22700], [1, 3, 136420]],
    [[1, 3, 22770], [1, 3, 22775], [1, 3, 22790], [1, 3, 22810], [1, 3, 22818], [1, 3, 22882]],
    [[1, 3, 136872], [1, 3, 136938], [1, 3, 23020], [1, 3, 23067], [1, 3, 23079], [1, 3, 23000]],
    [[1, 3, 23142], [1, 3, 14062], [1, 3, 14076], [1, 3, 23304], [1, 3, 23358], [2, 3, 137672]],
    [[1, 3, 23491], [1, 3, 23512], [1, 3, 23527], [1, 3, 23539], [1, 3, 138008], [1, 3, 23551]],
    [[1, 3, 23558], [1, 3, 24403], [1, 3, 23586], [1, 3, 14209], [1, 3, 23648], [1, 3, 23662]],
    [[1, 3, 23744], [1, 3, 23693], [1, 3, 138724], [1, 3, 23875], [1, 3, 138726], [1, 3, 23918]],
    [[1, 3, 23915], [1, 3, 23932], [1, 3, 24033], [1, 3, 24034], [1, 3, 14383], [1, 3, 24061]],
    [[1, 3, 24104], [1, 3, 24125], [1, 3, 24169], [1, 3, 14434], [1, 3, 139651], [1, 3, 14460]],
    [[1, 3, 24240], [1, 3, 24243], [1, 3, 24246], [1, 3, 24266], [1, 3, 172946], [1, 3, 24318]],
    [[1, 3, 140081], [2, 3, 33281], [1, 3, 24354], [2, 3, 14535], [1, 3, 144056], [1, 3, 156122]],
    [[1, 3, 24418], [1, 3, 24427], [1, 3, 14563], [1, 3, 24474], [1, 3, 24525], [1, 3, 24535]],
    [[1, 3, 24569], [1, 3, 24705], [1, 3, 14650], [1, 3, 14620], [1, 3, 24724], [1, 3, 141012]],
    [[1, 3, 24775], [1, 3, 24904], [1, 3, 24908], [1, 3, 24910], [1, 3, 24908], [1, 3, 24954]],
    [[1, 3, 24974], [1, 3, 25010], [1, 3, 24996], [1, 3, 25007], [1, 3, 25054], [1, 3, 25074]],
    [[1, 3, 25078], [1, 3, 25104], [1, 3, 25115], [1, 3, 25181], [1, 3, 25265], [1, 3, 25300]],
    [[1, 3, 25424], [1, 3, 142092], [1, 3, 25405], [1, 3, 25340], [1, 3, 25448], [1, 3, 25475]],
    [[1, 3, 25572], [1, 3, 142321], [1, 3, 25634], [1, 3, 25541], [1, 3, 25513], [1, 3, 14894]],
    [[1, 3, 25705], [1, 3, 25726], [1, 3, 25757], [1, 3, 25719], [1, 3, 14956], [1, 3, 25935]],
    [[1, 3, 25964], [1, 3, 143370], [1, 3, 26083], [1, 3, 26360], [1, 3, 26185], [1, 3, 15129]],
    [[1, 3, 26257], [1, 3, 15112], [1, 3, 15076], [1, 3, 20882], [1, 3, 20885], [1, 3, 26368]],
    [[1, 3, 26268], [1, 3, 32941], [1, 3, 17369], [1, 3, 26391], [1, 3, 26395], [1, 3, 26401]],
    [[1, 3, 26462], [1, 3, 26451], [1, 3, 144323], [1, 3, 15177], [1, 3, 26618], [1, 3, 26501]],
    [[1, 3, 26706], [1, 3, 26757], [1, 3, 144493], [1, 3, 26766], [1, 3, 26655], [1, 3, 26900]],
    [[1, 3, 15261], [1, 3, 26946], [1, 3, 27043], [1, 3, 27114], [1, 3, 27304], [1, 3, 145059]],
    [[1, 3, 27355], [1, 3, 15384], [1, 3, 27425], [1, 3, 145575], [1, 3, 27476], [1, 3, 15438]],
    [[1, 3, 27506], [1, 3, 27551], [1, 3, 27578], [1, 3, 27579], [1, 3, 146061], [1, 3, 138507]],
    [[1, 3, 146170], [1, 3, 27726], [1, 3, 146620], [1, 3, 27839], [1, 3, 27853], [1, 3, 27751]],
    [[1, 3, 27926], [1, 3, 27966], [1, 3, 28023], [1, 3, 27969], [1, 3, 28009], [1, 3, 28024]],
    [[1, 3, 28037], [1, 3, 146718], [1, 3, 27956], [1, 3, 28207], [1, 3, 28270], [1, 3, 15667]],
    [[1, 3, 28363], [1, 3, 28359], [1, 3, 147153], [1, 3, 28153], [1, 3, 28526], [1, 3, 147294]],
    [[1, 3, 147342], [1, 3, 28614], [1, 3, 28729], [1, 3, 28702], [1, 3, 28699], [1, 3, 15766]],
    [[1, 3, 28746], [1, 3, 28797], [1, 3, 28791], [1, 3, 28845], [1, 3, 132389], [1, 3, 28997]],
    [[1, 3, 148067], [1, 3, 29084], [1, 3, 148395], [1, 3, 29224], [1, 3, 29237], [1, 3, 29264]],
    [[1, 3, 149000], [1, 3, 29312], [1, 3, 29333], [1, 3, 149301], [1, 3, 149524], [1, 3, 29562]],
    [[1, 3, 29579], [1, 3, 16044], [1, 3, 29605], [1, 3, 16056], [2, 3, 29767], [1, 3, 29788]],
    [[1, 3, 29809], [1, 3, 29829], [1, 3, 29898], [1, 3, 16155], [1, 3, 29988], [1, 3, 150582]],
    [[1, 3, 30014], [1, 3, 150674], [1, 3, 30064], [1, 3, 139679], [1, 3, 30224], [1, 3, 151457]],
    [[1, 3, 151480], [1, 3, 151620], [1, 3, 16380], [1, 3, 16392], [1, 3, 30452], [1, 3, 151795]],
    [[1, 3, 151794], [1, 3, 151833], [1, 3, 151859], [1, 3, 30494], [1, 3, 30495], [2, 3, 30538]],
    [[1, 3, 16441], [1, 3, 30603], [1, 3, 16454], [1, 3, 16534], [1, 3, 152605], [1, 3, 30798]],
    [[1, 3, 30860], [1, 3, 30924], [1, 3, 16611], [1, 3, 153126], [1, 3, 31062], [1, 3, 153242]],
    [[1, 3, 153285], [1, 3, 31119], [1, 3, 31211], [1, 3, 16687], [1, 3, 31296], [1, 3, 31306]],
    [[1, 3, 31311], [1, 3, 153980], [1, 3, 154279], [2, 3, 31470], [1, 3, 16898], [1, 3, 154539]],
    [[1, 3, 31686], [1, 3, 31689], [1, 3, 16935], [1, 3, 154752], [1, 3, 31954], [1, 3, 17056]],
    [[1, 3, 31976], [1, 3, 31971], [1, 3, 32000], [1, 3, 155526], [1, 3, 32099], [1, 3, 17153]],
    [[1, 3, 32199], [1, 3, 32258], [1, 3, 32325], [1, 3, 17204], [1, 3, 156200], [1, 3, 156231]],
    [[1, 3, 17241], [1, 3, 156377], [1, 3, 32634], [1, 3, 156478], [1, 3, 32661], [1, 3, 32762]],
    [[1, 3, 32773], [1, 3, 156890], [1, 3, 156963], [1, 3, 32864], [1, 3, 157096], [1, 3, 32880]],
    [[1, 3, 144223], [1, 3, 17365], [1, 3, 32946], [1, 3, 33027], [1, 3, 17419], [1, 3, 33086]],
    [[1, 3, 23221], [1, 3, 157607], [1, 3, 157621], [1, 3, 144275], [1, 3, 144284], [1, 3, 33281]],
    [[1, 3, 33284], [1, 3, 36766], [1, 3, 17515], [1, 3, 33425], [1, 3, 33419], [1, 3, 33437]],
    [[1, 3, 21171], [1, 3, 33457], [1, 3, 33459], [1, 3, 33469], [1, 3, 33510], [1, 3, 158524]],
    [[1, 3, 33509], [1, 3, 33565], [1, 3, 33635], [1, 3, 33709], [1, 3, 33571], [1, 3, 33725]],
    [[1, 3, 33767], [1, 3, 33879], [1, 3, 33619], [1, 3, 33738], [1, 3, 33740], [1, 3, 33756]],
    [[1, 3, 158774], [1, 3, 159083], [1, 3, 158933], [1, 3, 17707], [1, 3, 34033], [1, 3, 34035]],
    [[1, 3, 34070], [1, 3, 160714], [1, 3, 34148], [1, 3, 159532], [1, 3, 17757], [1, 3, 17761]],
    [[1, 3, 159665], [1, 3, 159954], [1, 3, 17771], [1, 3, 34384], [1, 3, 34396], [1, 3, 34407]],
    [[1, 3, 34409], [1, 3, 34473], [1, 3, 34440], [1, 3, 34574], [1, 3, 34530], [1, 3, 34681]],
    [[1, 3, 34600], [1, 3, 34667], [1, 3, 34694], [1, 3, 17879], [1, 3, 34785], [1, 3, 34817]],
    [[1, 3, 17913], [1, 3, 34912], [1, 3, 34915], [1, 3, 161383], [1, 3, 35031], [1, 3, 35038]],
    [[1, 3, 17973], [1, 3, 35066], [1, 3, 13499], [1, 3, 161966], [1, 3, 162150], [1, 3, 18110]],
    [[1, 3, 18119], [1, 3, 35488], [1, 3, 35565], [1, 3, 35722], [1, 3, 35925], [1, 3, 162984]],
    [[1, 3, 36011], [1, 3, 36033], [1, 3, 36123], [1, 3, 36215], [1, 3, 163631], [1, 3, 133124]],
    [[1, 3, 36299], [1, 3, 36284], [1, 3, 36336], [1, 3, 133342], [1, 3, 36564], [1, 3, 36664]],
    [[1, 3, 165330], [1, 3, 165357], [1, 3, 37012], [1, 3, 37105], [1, 3, 37137], [1, 3, 165678]],
    [[1, 3, 37147], [1, 3, 37432], [1, 3, 37591], [1, 3, 37592], [1, 3, 37500], [1, 3, 37881]],
    [[1, 3, 37909], [1, 3, 166906], [1, 3, 38283], [1, 3, 18837], [1, 3, 38327], [1, 3, 167287]],
    [[1, 3, 18918], [1, 3, 38595], [1, 3, 23986], [1, 3, 38691], [1, 3, 168261], [1, 3, 168474]],
    [[1, 3, 19054], [1, 3, 19062], [1, 3, 38880], [1, 3, 168970], [1, 3, 19122], [1, 3, 169110]],
    [[1, 3, 38923], [2, 3, 38953], [1, 3, 169398], [1, 3, 39138], [1, 3, 19251], [1, 3, 39209]],
    [[1, 3, 39335], [1, 3, 39362], [1, 3, 39422], [1, 3, 19406], [1, 3, 170800], [1, 3, 39698]],
    [[1, 3, 40000], [1, 3, 40189], [1, 3, 19662], [1, 3, 19693], [1, 3, 40295], [1, 3, 172238]],
    [[1, 3, 19704], [1, 3, 172293], [1, 3, 172558], [1, 3, 172689], [1, 3, 40635], [1, 3, 19798]],
    [[1, 3, 40697], [1, 3, 40702], [1, 3, 40709], [1, 3, 40719], [1, 3, 40726], [1, 3, 40763]],
    [[1, 3, 173568], [1, 1], [1506, 0], [4939, 1], [5, 0], [8490, 1], [707718, 2], [240, 1]]]

/-- The entries. -/
def treatmentEntries : List (Nat × Treatment) :=
  (Text.placed 0 treatmentRows.flatten).map fun e => (e.1, Treatment.ofNumbers e.2)

/-- The table. -/
def treatments : Text.Table Treatment := .ofEntries treatmentEntries

/-- What becomes of a character of a domain name. -/
def treatment (c : Char) : Treatment :=
  (treatments.below? c.toNat).getD .refuse

end HostAgent.Unicode
