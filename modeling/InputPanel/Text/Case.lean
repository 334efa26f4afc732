import InputPanel.Text.CharSet

/-!
# Upper and lower case

The full case maps: a character may become several. A capital sigma that ends
a word becomes the final small sigma; a word ends where, past the characters
that case rules ignore, no cased character follows.
-/

namespace InputPanel.Text

/-- Characters that a case map shifts alike: every `stride`-th of `count` from `first`. -/
structure CaseRun where
  first : Nat
  count : Nat
  stride : Nat
  shift : Int

/-- A case map, by runs and by the characters that become several. -/
structure CaseMap where
  runs : Array CaseRun
  expansions : List (Nat × List Nat)

namespace CaseMap

/-- Reads runs of four numbers; shifts are written with the size of the code space added. -/
def runsOf : List Nat → List CaseRun
  | first :: count :: stride :: shift :: rest =>
    ⟨first, count, stride, (shift : Int) - 0x110000⟩ :: runsOf rest
  | _ => []

/-- Reads expansions: a code point, the length of its image, the image. -/
def expansionsOf : Nat → List Nat → List (Nat × List Nat)
  | 0, _ => []
  | fuel + 1, c :: len :: rest => (c, rest.take len) :: expansionsOf fuel (rest.drop len)
  | _, _ => []

def ofTables (runs expansions : String) : CaseMap :=
  ⟨(runsOf (numbersIn runs).toList).toArray,
    let numbers := (numbersIn expansions).toList
    expansionsOf numbers.length numbers⟩

def runAt (map : CaseMap) (n : Nat) : Option CaseRun :=
  map.runs.find? fun r =>
    r.first ≤ n && (n - r.first) % r.stride == 0 && (n - r.first) / r.stride < r.count

/-- The image of a character that has one character as its image; others are kept. -/
def single (map : CaseMap) (c : Char) : Char :=
  match map.runAt c.toNat with
  | some r => Char.ofNat ((c.toNat : Int) + r.shift).toNat
  | none => c

def image (map : CaseMap) (c : Char) : List Char :=
  match map.expansions.lookup c.toNat with
  | some codes => codes.map Char.ofNat
  | none => [map.single c]

end CaseMap

def lowerTable : CaseMap := .ofTables
  ("65 26 1 1114144 192 23 1 1114144 216 7 1 1114144 256 24 2 1114113 306 3 2 1114113 313 8 " ++
  "2 1114113 330 23 2 1114113 376 1 1 1113991 377 3 2 1114113 385 1 1 1114322 386 2 2 " ++
  "1114113 390 1 1 1114318 391 1 1 1114113 393 2 1 1114317 395 1 1 1114113 398 1 1 1114191 " ++
  "399 1 1 1114314 400 1 1 1114315 401 1 1 1114113 403 1 1 1114317 404 1 1 1114319 406 1 1 " ++
  "1114323 407 1 1 1114321 408 1 1 1114113 412 1 1 1114323 413 1 1 1114325 415 1 1 1114326 " ++
  "416 3 2 1114113 422 1 1 1114330 423 1 1 1114113 425 1 1 1114330 428 1 1 1114113 430 1 1 " ++
  "1114330 431 1 1 1114113 433 2 1 1114329 435 2 2 1114113 439 1 1 1114331 440 1 1 1114113 " ++
  "444 1 1 1114113 452 1 1 1114114 453 1 1 1114113 455 1 1 1114114 456 1 1 1114113 458 1 1 " ++
  "1114114 459 9 2 1114113 478 9 2 1114113 497 1 1 1114114 498 2 2 1114113 502 1 1 1114015 " ++
  "503 1 1 1114056 504 20 2 1114113 544 1 1 1113982 546 9 2 1114113 570 1 1 1124907 571 1 1 " ++
  "1114113 573 1 1 1113949 574 1 1 1124904 577 1 1 1114113 579 1 1 1113917 580 1 1 1114181 " ++
  "581 1 1 1114183 582 5 2 1114113 880 2 2 1114113 886 1 1 1114113 895 1 1 1114228 902 1 1 " ++
  "1114150 904 3 1 1114149 908 1 1 1114176 910 2 1 1114175 913 17 1 1114144 931 9 1 1114144 " ++
  "975 1 1 1114120 984 12 2 1114113 1012 1 1 1114052 1015 1 1 1114113 1017 1 1 1114105 1018 " ++
  "1 1 1114113 1021 3 1 1113982 1024 16 1 1114192 1040 32 1 1114144 1120 17 2 1114113 1162 " ++
  "27 2 1114113 1216 1 1 1114127 1217 7 2 1114113 1232 48 2 1114113 1329 38 1 1114160 4256 " ++
  "38 1 1121376 4295 1 1 1121376 4301 1 1 1121376 5024 80 1 1152976 5104 6 1 1114120 7312 " ++
  "43 1 1111104 7357 3 1 1111104 7680 75 2 1114113 7838 1 1 1106497 7840 48 2 1114113 7944 " ++
  "8 1 1114104 7960 6 1 1114104 7976 8 1 1114104 7992 8 1 1114104 8008 6 1 1114104 8025 4 2 " ++
  "1114104 8040 8 1 1114104 8072 8 1 1114104 8088 8 1 1114104 8104 8 1 1114104 8120 2 1 " ++
  "1114104 8122 2 1 1114038 8124 1 1 1114103 8136 4 1 1114026 8140 1 1 1114103 8152 2 1 " ++
  "1114104 8154 2 1 1114012 8168 2 1 1114104 8170 2 1 1114000 8172 1 1 1114105 8184 2 1 " ++
  "1113984 8186 2 1 1113986 8188 1 1 1114103 8486 1 1 1106595 8490 1 1 1105729 8491 1 1 " ++
  "1105850 8498 1 1 1114140 8544 16 1 1114128 8579 1 1 1114113 9398 26 1 1114138 11264 48 1 " ++
  "1114160 11360 1 1 1114113 11362 1 1 1103369 11363 1 1 1110298 11364 1 1 1103385 11367 3 " ++
  "2 1114113 11373 1 1 1103332 11374 1 1 1103363 11375 1 1 1103329 11376 1 1 1103330 11378 " ++
  "1 1 1114113 11381 1 1 1114113 11390 2 1 1103297 11392 50 2 1114113 11499 2 2 1114113 " ++
  "11506 1 1 1114113 42560 23 2 1114113 42624 14 2 1114113 42786 7 2 1114113 42802 31 2 " ++
  "1114113 42873 2 2 1114113 42877 1 1 1078780 42878 5 2 1114113 42891 1 1 1114113 42893 1 " ++
  "1 1071832 42896 2 2 1114113 42902 10 2 1114113 42922 1 1 1071804 42923 1 1 1071793 42924 " ++
  "1 1 1071797 42925 1 1 1071807 42926 1 1 1071804 42928 1 1 1071854 42929 1 1 1071830 " ++
  "42930 1 1 1071851 42931 1 1 1115040 42932 8 2 1114113 42948 1 1 1114064 42949 1 1 " ++
  "1071805 42950 1 1 1078728 42951 2 2 1114113 42960 1 1 1114113 42966 2 2 1114113 42997 1 " ++
  "1 1114113 65313 26 1 1114144 66560 40 1 1114152 66736 36 1 1114152 66928 19 2 1114151 " ++
  "66929 5 2 1114151 66941 7 2 1114151 66957 3 2 1114151 66965 1 1 1114151 68736 51 1 " ++
  "1114176 71840 32 1 1114144 93760 32 1 1114144 125184 34 1 1114146")
  "304 2 105 775"

def upperTable : CaseMap := .ofTables
  ("97 26 1 1114080 181 1 1 1114855 224 23 1 1114080 248 7 1 1114080 255 1 1 1114233 257 24 " ++
  "2 1114111 305 1 1 1113880 307 3 2 1114111 314 8 2 1114111 331 23 2 1114111 378 3 2 " ++
  "1114111 383 1 1 1113812 384 1 1 1114307 387 2 2 1114111 392 1 1 1114111 396 1 1 1114111 " ++
  "402 1 1 1114111 405 1 1 1114209 409 1 1 1114111 410 1 1 1114275 414 1 1 1114242 417 3 2 " ++
  "1114111 424 1 1 1114111 429 1 1 1114111 432 1 1 1114111 436 2 2 1114111 441 1 1 1114111 " ++
  "445 1 1 1114111 447 1 1 1114168 453 1 1 1114111 454 1 1 1114110 456 1 1 1114111 457 1 1 " ++
  "1114110 459 1 1 1114111 460 1 1 1114110 462 8 2 1114111 477 1 1 1114033 479 9 2 1114111 " ++
  "498 1 1 1114111 499 1 1 1114110 501 1 1 1114111 505 20 2 1114111 547 9 2 1114111 572 1 1 " ++
  "1114111 575 2 1 1124927 578 1 1 1114111 583 5 2 1114111 592 1 1 1124895 593 1 1 1124892 " ++
  "594 1 1 1124894 595 1 1 1113902 596 1 1 1113906 598 2 1 1113907 601 1 1 1113910 603 1 1 " ++
  "1113909 604 1 1 1156431 608 1 1 1113907 609 1 1 1156427 611 1 1 1113905 613 1 1 1156392 " ++
  "614 1 1 1156420 616 1 1 1113903 617 1 1 1113901 618 1 1 1156420 619 1 1 1124855 620 1 1 " ++
  "1156417 623 1 1 1113901 625 1 1 1124861 626 1 1 1113899 629 1 1 1113898 637 1 1 1124839 " ++
  "640 1 1 1113894 642 1 1 1156419 643 1 1 1113894 647 1 1 1156394 648 1 1 1113894 649 1 1 " ++
  "1114043 650 2 1 1113895 652 1 1 1114041 658 1 1 1113893 669 1 1 1156373 670 1 1 1156370 " ++
  "837 1 1 1114196 881 2 2 1114111 887 1 1 1114111 891 3 1 1114242 940 1 1 1114074 941 3 1 " ++
  "1114075 945 17 1 1114080 962 1 1 1114081 963 9 1 1114080 972 1 1 1114048 973 2 1 1114049 " ++
  "976 1 1 1114050 977 1 1 1114055 981 1 1 1114065 982 1 1 1114058 983 1 1 1114104 985 12 2 " ++
  "1114111 1008 1 1 1114026 1009 1 1 1114032 1010 1 1 1114119 1011 1 1 1113996 1013 1 1 " ++
  "1114016 1016 1 1 1114111 1019 1 1 1114111 1072 32 1 1114080 1104 16 1 1114032 1121 17 2 " ++
  "1114111 1163 27 2 1114111 1218 7 2 1114111 1231 1 1 1114097 1233 48 2 1114111 1377 38 1 " ++
  "1114064 4304 43 1 1117120 4349 3 1 1117120 5112 6 1 1114104 7296 1 1 1107858 7297 1 1 " ++
  "1107859 7298 1 1 1107868 7299 2 1 1107870 7301 1 1 1107869 7302 1 1 1107876 7303 1 1 " ++
  "1107931 7304 1 1 1149378 7545 1 1 1149444 7549 1 1 1117926 7566 1 1 1149496 7681 75 2 " ++
  "1114111 7835 1 1 1114053 7841 48 2 1114111 7936 8 1 1114120 7952 6 1 1114120 7968 8 1 " ++
  "1114120 7984 8 1 1114120 8000 6 1 1114120 8017 4 2 1114120 8032 8 1 1114120 8048 2 1 " ++
  "1114186 8050 4 1 1114198 8054 2 1 1114212 8056 2 1 1114240 8058 2 1 1114224 8060 2 1 " ++
  "1114238 8112 2 1 1114120 8126 1 1 1106907 8144 2 1 1114120 8160 2 1 1114120 8165 1 1 " ++
  "1114119 8526 1 1 1114084 8560 16 1 1114096 8580 1 1 1114111 9424 26 1 1114086 11312 48 1 " ++
  "1114064 11361 1 1 1114111 11365 1 1 1103317 11366 1 1 1103320 11368 3 2 1114111 11379 1 " ++
  "1 1114111 11382 1 1 1114111 11393 50 2 1114111 11500 2 2 1114111 11507 1 1 1114111 11520 " ++
  "38 1 1106848 11559 1 1 1106848 11565 1 1 1106848 42561 23 2 1114111 42625 14 2 1114111 " ++
  "42787 7 2 1114111 42803 31 2 1114111 42874 2 2 1114111 42879 5 2 1114111 42892 1 1 " ++
  "1114111 42897 2 2 1114111 42900 1 1 1114160 42903 10 2 1114111 42933 8 2 1114111 42952 2 " ++
  "2 1114111 42961 1 1 1114111 42967 2 2 1114111 42998 1 1 1114111 43859 1 1 1113184 43888 " ++
  "80 1 1075248 65345 26 1 1114080 66600 40 1 1114072 66776 36 1 1114072 66967 19 2 1114073 " ++
  "66968 5 2 1114073 66980 7 2 1114073 66996 3 2 1114073 67004 1 1 1114073 68800 51 1 " ++
  "1114048 71872 32 1 1114080 93792 32 1 1114080 125218 34 1 1114078")
  ("223 2 83 83 329 2 700 78 496 2 74 780 912 3 921 776 769 944 3 933 776 769 1415 2 1333 " ++
  "1362 7830 2 72 817 7831 2 84 776 7832 2 87 778 7833 2 89 778 7834 2 65 702 8016 2 933 " ++
  "787 8018 3 933 787 768 8020 3 933 787 769 8022 3 933 787 834 8064 2 7944 921 8065 2 7945 " ++
  "921 8066 2 7946 921 8067 2 7947 921 8068 2 7948 921 8069 2 7949 921 8070 2 7950 921 8071 " ++
  "2 7951 921 8072 2 7944 921 8073 2 7945 921 8074 2 7946 921 8075 2 7947 921 8076 2 7948 " ++
  "921 8077 2 7949 921 8078 2 7950 921 8079 2 7951 921 8080 2 7976 921 8081 2 7977 921 8082 " ++
  "2 7978 921 8083 2 7979 921 8084 2 7980 921 8085 2 7981 921 8086 2 7982 921 8087 2 7983 " ++
  "921 8088 2 7976 921 8089 2 7977 921 8090 2 7978 921 8091 2 7979 921 8092 2 7980 921 8093 " ++
  "2 7981 921 8094 2 7982 921 8095 2 7983 921 8096 2 8040 921 8097 2 8041 921 8098 2 8042 " ++
  "921 8099 2 8043 921 8100 2 8044 921 8101 2 8045 921 8102 2 8046 921 8103 2 8047 921 8104 " ++
  "2 8040 921 8105 2 8041 921 8106 2 8042 921 8107 2 8043 921 8108 2 8044 921 8109 2 8045 " ++
  "921 8110 2 8046 921 8111 2 8047 921 8114 2 8122 921 8115 2 913 921 8116 2 902 921 8118 2 " ++
  "913 834 8119 3 913 834 921 8124 2 913 921 8130 2 8138 921 8131 2 919 921 8132 2 905 921 " ++
  "8134 2 919 834 8135 3 919 834 921 8140 2 919 921 8146 3 921 776 768 8147 3 921 776 769 " ++
  "8150 2 921 834 8151 3 921 776 834 8162 3 933 776 768 8163 3 933 776 769 8164 2 929 787 " ++
  "8166 2 933 834 8167 3 933 776 834 8178 2 8186 921 8179 2 937 921 8180 2 911 921 8182 2 " ++
  "937 834 8183 3 937 834 921 8188 2 937 921 64256 2 70 70 64257 2 70 73 64258 2 70 76 " ++
  "64259 3 70 70 73 64260 3 70 70 76 64261 2 83 84 64262 2 83 84 64275 2 1348 1350 64276 2 " ++
  "1348 1333 64277 2 1348 1339 64278 2 1358 1350 64279 2 1348 1341")

/-- Characters with case that the sigma rule does not look past. -/
def cased : CharSet := .ofDifferences
  ("65 26 6 26 47 1 10 1 4 1 5 23 1 31 1 195 1 4 4 208 1 27 192 4 2 2 3 3 1 1 6 1 1 3 1 1 1 " ++
  "20 1 83 1 139 8 166 1 38 9 41 2839 38 1 1 5 1 2 43 2 3 672 86 2 6 2178 9 7 43 2 3 64 44 " ++
  "63 13 1 34 101 278 2 6 2 38 2 6 2 8 1 1 1 1 1 1 1 31 2 53 1 7 1 1 3 3 1 7 3 4 2 6 4 13 5 " ++
  "3 1 7 261 1 4 1 2 10 1 1 3 5 6 1 1 1 1 1 1 4 1 6 4 1 2 4 5 5 4 1 17 32 3 2 817 52 1814 " ++
  "124 2 103 6 4 3 2 12 38 1 1 5 1 30994 46 18 28 134 78 1 23 3 4 1 59 5 2 1 1 1 5 27 2 3 1 " ++
  "821 43 5 9 7 80 20288 7 12 5 1033 26 6 26 1189 80 96 36 4 36 116 11 1 15 1 7 1 2 1 11 1 " ++
  "15 1 7 1 2 1731 51 13 51 2989 64 21856 64 25984 85 1 71 1 2 2 1 2 2 2 4 1 12 1 1 1 7 1 " ++
  "65 1 4 2 8 1 7 1 28 1 4 1 5 1 1 3 7 1 340 2 25 1 25 1 31 1 25 1 31 1 25 1 31 1 25 1 31 1 " ++
  "25 1 8 1844 10 1 20 2529 68 2028 26 6 26 6 26")

/-- Characters that the sigma rule looks past. -/
def caseIgnorable : CharSet := .ofDifferences
  ("39 1 6 1 11 1 35 1 1 1 71 1 4 1 1 1 4 1 2 2 503 192 4 2 4 1 9 2 1 1 251 7 207 1 5 1 49 " ++
  "45 1 1 1 2 1 2 1 1 44 1 11 6 10 11 1 1 35 1 10 21 16 1 101 8 1 10 1 4 33 1 1 1 30 27 91 " ++
  "11 58 11 4 1 2 1 24 24 43 3 44 1 7 2 6 8 41 58 55 1 1 1 4 8 4 1 3 7 10 2 13 1 15 1 58 1 " ++
  "4 4 8 1 20 2 26 1 2 2 57 1 4 2 4 2 2 3 3 1 30 2 3 1 11 2 57 1 4 5 1 2 4 1 20 2 22 6 1 1 " ++
  "58 1 2 1 1 4 8 1 7 2 11 2 30 1 61 1 12 1 50 1 3 1 55 1 1 3 5 3 1 4 7 2 11 2 29 1 58 1 2 " ++
  "1 6 1 5 2 20 2 28 2 57 2 4 4 8 1 20 2 29 1 72 1 7 3 1 1 90 1 2 7 11 9 98 1 2 9 9 1 1 6 " ++
  "74 2 27 1 1 1 1 1 55 14 1 5 1 2 5 11 1 36 9 1 102 4 1 6 1 2 2 2 25 2 4 3 16 4 13 1 2 2 6 " ++
  "1 15 1 94 1 608 3 946 3 29 2 30 2 30 2 64 2 1 7 8 1 2 11 3 1 5 1 45 5 51 1 65 2 34 1 118 " ++
  "3 4 2 9 1 6 3 219 2 2 1 58 1 1 7 1 1 1 1 2 8 6 10 2 1 39 1 8 31 49 4 48 1 1 5 1 1 5 1 40 " ++
  "9 12 2 32 4 2 2 1 3 56 1 1 2 3 1 1 3 58 8 2 2 64 6 82 3 1 13 1 7 4 1 6 1 3 2 50 63 13 1 " ++
  "34 101 445 1 1 3 11 3 13 3 13 3 13 2 12 5 8 2 10 1 2 1 2 5 49 5 1 10 1 1 13 1 16 13 51 " ++
  "33 2955 2 113 3 125 1 15 1 96 32 47 1 469 1 36 4 3 5 5 1 93 6 93 3 28438 1 1250 6 270 1 " ++
  "98 4 1 10 1 1 28 4 80 2 14 34 78 1 23 3 103 3 3 2 8 1 3 1 4 1 25 2 5 1 151 2 26 18 13 1 " ++
  "38 8 25 11 46 3 48 1 2 4 2 2 17 1 21 2 66 6 2 2 2 2 12 1 8 1 35 1 11 1 51 1 1 3 2 2 5 2 " ++
  "1 1 27 1 14 2 5 2 1 1 100 5 9 3 121 1 2 1 4 1 20272 1 147 17 573 16 3 1 12 16 34 1 2 1 " ++
  "169 1 7 1 6 1 11 1 35 1 1 1 47 1 45 2 67 1 21 3 513 1 226 1 149 5 1029 6 1 42 1 9 582 3 " ++
  "1 2 5 4 40 3 4 1 165 2 573 4 387 2 153 11 49 4 123 1 54 15 41 1 2 2 10 3 49 4 2 2 2 1 4 " ++
  "1 10 1 50 3 36 5 1 8 62 1 12 2 52 9 10 4 2 1 95 3 2 1 1 2 6 1 160 1 3 8 21 2 57 2 3 1 37 " ++
  "7 3 5 195 8 2 3 1 1 23 1 84 6 1 1 4 2 1 2 238 4 6 2 1 2 27 2 85 8 2 1 1 2 106 1 1 1 2 6 " ++
  "1 1 101 3 2 4 1 5 259 9 1 2 256 2 1 1 4 1 144 4 2 2 4 1 32 10 40 6 2 4 8 1 9 6 2 3 46 13 " ++
  "1 2 406 7 1 6 1 1 82 22 2 7 1 2 1 2 122 6 3 1 1 2 1 7 1 1 72 2 3 1 1 1 347 2 5435 9 " ++
  "14007 5 59 7 9 4 1035 1 63 17 64 2 1 2 16395 4 1 7 1 2 3230 2 1 4 4700 46 2 23 544 3 9 " ++
  "16 2 7 30 4 148 3 1979 55 4 50 8 1 14 1 22 5 1 15 1360 7 1 17 2 7 1 2 1 5 261 14 368 1 " ++
  "61 4 1504 7 109 8 2735 5 789505 1 30 96 128 240")

/-- Lower case of one character apart from its neighbours. -/
def lowerChar (c : Char) : List Char :=
  if c.toNat < 128 then [c.toLower] else lowerTable.image c

def upperChar (c : Char) : List Char :=
  if c.toNat < 128 then [c.toUpper] else upperTable.image c

/-- Whether, past the ignorable characters, a cased one comes next. -/
def casedNext : List Char → Bool
  | [] => false
  | c :: rest => if caseIgnorable.contains c then casedNext rest else cased.contains c

/-- Lower case of `rest`, when the characters of `before` stand before it, nearest first. -/
def lowerFrom (before : List Char) : List Char → List Char
  | [] => []
  | c :: rest =>
    (if c = 'Σ' then [if casedNext before && !casedNext rest then 'ς' else 'σ'] else lowerChar c)
      ++ lowerFrom (c :: before) rest

def lower (s : String) : String := String.ofList (lowerFrom [] s.toList)

def upper (s : String) : String := String.ofList (s.toList.flatMap upperChar)

end InputPanel.Text
