import InputPanel.Text.Blank
import InputPanel.Text.CharSet

/-!
# Character sets of one byte

In such a set a byte below 128 stands for the character of its number. The other
half is given by runs of consecutive characters: how many there are, and the
first. A run that begins with 0 stands for no characters.
-/

namespace InputPanel.Xml

structure Charset where
  names : List String
  runs : List (Nat × Nat)

namespace Charset

def runsOf : List Nat → List (Nat × Nat)
  | count :: first :: rest => (count, first) :: runsOf rest
  | _ => []

def ofRuns (names : List String) (runs : String) : Charset :=
  ⟨names, runsOf (Text.numbersIn runs).toList⟩

/-- The character at a place in a row of runs. -/
def at? : Nat → List (Nat × Nat) → Option Char
  | _, [] => none
  | place, (count, first) :: rest =>
    if count ≤ place then at? (place - count) rest
    else if first = 0 then none
    else some (Char.ofNat (first + place))

def char? (charset : Charset) (byte : UInt8) : Option Char :=
  if byte < 128 then some (Char.ofNat byte.toNat) else at? (byte.toNat - 128) charset.runs

end Charset

def latin1 : Charset := .ofRuns ["iso-8859-1"] "128 128"

def ascii : Charset := .ofRuns ["us-ascii"] "128 0"

/-- The sets that a document may name. -/
def charsets : List Charset := [
  .ofRuns
    ["8859", "charmap", "cp819", "csisolatin1", "ibm819", "iso8859", "iso8859_1", "iso_8859_1",
     "iso_8859_1_1987", "iso_ir_100", "l1", "latin", "latin1", "latin_1", "raw_unicode_escape",
     "unicode_escape"]
    ("128 128"),
  .ofRuns
    ["csisolatin2", "iso8859_2", "iso_8859_2", "iso_8859_2_1987", "iso_ir_101", "l2", "latin2"]
    ("33 128 1 260 1 728 1 321 1 164 1 317 1 346 2 167 1 352 1 350 1 356 1 377 1 173 1 381 1 " ++
       "379 1 176 1 261 1 731 1 322 1 180 1 318 1 347 1 711 1 184 1 353 1 351 1 357 1 378 1 " ++
       "733 1 382 1 380 1 340 2 193 1 258 1 196 1 313 1 262 1 199 1 268 1 201 1 280 1 203 1 " ++
       "282 2 205 1 270 1 272 1 323 1 327 2 211 1 336 2 214 1 344 1 366 1 218 1 368 2 220 1 " ++
       "354 1 223 1 341 2 225 1 259 1 228 1 314 1 263 1 231 1 269 1 233 1 281 1 235 1 283 2 " ++
       "237 1 271 1 273 1 324 1 328 2 243 1 337 2 246 1 345 1 367 1 250 1 369 2 252 1 355 1 " ++
       "729"),
  .ofRuns
    ["csisolatin3", "iso8859_3", "iso_8859_3", "iso_8859_3_1988", "iso_ir_109", "l3", "latin3"]
    ("33 128 1 294 1 728 2 163 1 0 1 292 2 167 1 304 1 350 1 286 1 308 1 173 1 0 1 379 1 176 " ++
       "1 295 4 178 1 293 2 183 1 305 1 351 1 287 1 309 1 189 1 0 1 380 3 192 1 0 1 196 1 266 " ++
       "1 264 9 199 1 0 4 209 1 288 2 214 1 284 4 217 1 364 1 348 4 223 1 0 1 228 1 267 1 265 " ++
       "9 231 1 0 4 241 1 289 2 246 1 285 4 249 1 365 1 349 1 729"),
  .ofRuns
    ["csisolatin4", "iso8859_4", "iso_8859_4", "iso_8859_4_1988", "iso_ir_110", "l4", "latin4"]
    ("33 128 1 260 1 312 1 342 1 164 1 296 1 315 2 167 1 352 1 274 1 290 1 358 1 173 1 381 2 " ++
       "175 1 261 1 731 1 343 1 180 1 297 1 316 1 711 1 184 1 353 1 275 1 291 1 359 1 330 1 " ++
       "382 1 331 1 256 6 193 1 302 1 268 1 201 1 280 1 203 1 278 2 205 1 298 1 272 1 325 1 " ++
       "332 1 310 5 212 1 370 3 218 1 360 1 362 1 223 1 257 6 225 1 303 1 269 1 233 1 281 1 " ++
       "235 1 279 2 237 1 299 1 273 1 326 1 333 1 311 5 244 1 371 3 250 1 361 1 363 1 729"),
  .ofRuns
    ["csisolatincyrillic", "cyrillic", "iso8859_5", "iso_8859_5", "iso_8859_5_1988", "iso_ir_144"]
    ("33 128 12 1025 1 173 66 1038 1 8470 12 1105 1 167 2 1118"),
  .ofRuns
    ["arabic", "asmo_708", "csisolatinarabic", "ecma_114", "iso8859_6", "iso_8859_6",
     "iso_8859_6_1987", "iso_ir_127"]
    ("33 128 3 0 1 164 7 0 1 1548 1 173 13 0 1 1563 3 0 1 1567 1 0 26 1569 5 0 19 1600 13 0"),
  .ofRuns
    ["csisolatingreek", "ecma_118", "elot_928", "greek", "greek8", "iso8859_7", "iso_8859_7",
     "iso_8859_7_1987", "iso_ir_126"]
    ("33 128 2 8216 1 163 1 8364 1 8367 4 166 1 890 3 171 1 0 1 8213 4 176 3 900 1 183 3 904 " ++
       "1 187 1 908 1 189 20 910 1 0 44 931 1 0"),
  .ofRuns
    ["csisolatinhebrew", "hebrew", "iso8859_8", "iso_8859_8", "iso_8859_8_1988", "iso_ir_138"]
    ("33 128 1 0 8 162 1 215 15 171 1 247 4 187 32 0 1 8215 27 1488 2 0 2 8206 1 0"),
  .ofRuns
    ["csisolatin5", "iso8859_9", "iso_8859_9", "iso_8859_9_1989", "iso_ir_148", "l5", "latin5"]
    ("80 128 1 286 12 209 1 304 1 350 17 223 1 287 12 241 1 305 1 351 1 255"),
  .ofRuns
    ["csisolatin6", "iso8859_10", "iso_8859_10", "iso_8859_10_1992", "iso_ir_157", "l6", "latin6"]
    ("33 128 1 260 1 274 1 290 1 298 1 296 1 310 1 167 1 315 1 272 1 352 1 358 1 381 1 173 1 " ++
       "362 1 330 1 176 1 261 1 275 1 291 1 299 1 297 1 311 1 183 1 316 1 273 1 353 1 359 1 " ++
       "382 1 8213 1 363 1 331 1 256 6 193 1 302 1 268 1 201 1 280 1 203 1 278 4 205 1 325 1 " ++
       "332 4 211 1 360 1 216 1 370 6 218 1 257 6 225 1 303 1 269 1 233 1 281 1 235 1 279 4 " ++
       "237 1 326 1 333 4 243 1 361 1 248 1 371 5 250 1 312"),
  .ofRuns
    ["iso8859_11", "iso_8859_11", "iso_8859_11_2001", "thai"]
    ("33 128 58 3585 4 0 29 3647 4 0"),
  .ofRuns
    ["iso8859_13", "iso_8859_13", "l7", "latin7"]
    ("33 128 1 8221 3 162 1 8222 2 166 1 216 1 169 1 342 4 171 1 198 4 176 1 8220 3 181 1 " ++
       "248 1 185 1 343 4 187 1 230 1 260 1 302 1 256 1 262 2 196 1 280 1 274 1 268 1 201 1 " ++
       "377 1 278 1 290 1 310 1 298 1 315 1 352 1 323 1 325 1 211 1 332 3 213 1 370 1 321 1 " ++
       "346 1 362 1 220 1 379 1 381 1 223 1 261 1 303 1 257 1 263 2 228 1 281 1 275 1 269 1 " ++
       "233 1 378 1 279 1 291 1 311 1 299 1 316 1 353 1 324 1 326 1 243 1 333 3 245 1 371 1 " ++
       "322 1 347 1 363 1 252 1 380 1 382 1 8217"),
  .ofRuns
    ["iso8859_14", "iso_8859_14", "iso_8859_14_1998", "iso_celtic", "iso_ir_199", "l8", "latin8"]
    ("33 128 2 7682 1 163 2 266 1 7690 1 167 1 7808 1 169 1 7810 1 7691 1 7922 2 173 1 376 2 " ++
       "7710 2 288 2 7744 1 182 1 7766 1 7809 1 7767 1 7811 1 7776 1 7923 2 7812 1 7777 16 192 " ++
       "1 372 6 209 1 7786 6 216 1 374 17 223 1 373 6 241 1 7787 6 248 1 375 1 255"),
  .ofRuns
    ["iso8859_15", "iso_8859_15", "l9", "latin9"]
    ("36 128 1 8364 1 165 1 352 1 167 1 353 11 169 1 381 3 181 1 382 3 185 2 338 1 376 65 " ++
       "191"),
  .ofRuns
    ["iso8859_16", "iso_8859_16", "iso_8859_16_2001", "iso_ir_226", "l10", "latin10"]
    ("33 128 2 260 1 321 1 8364 1 8222 1 352 1 167 1 353 1 169 1 536 1 171 1 377 1 173 2 378 " ++
       "2 176 1 268 1 322 1 381 1 8221 2 182 1 382 1 269 1 537 1 187 2 338 1 376 1 380 3 192 1 " ++
       "258 1 196 1 262 10 198 1 272 1 323 3 210 1 336 1 214 1 346 1 368 4 217 1 280 1 538 4 " ++
       "223 1 259 1 228 1 263 10 230 1 273 1 324 3 242 1 337 1 246 1 347 1 369 4 249 1 281 1 " ++
       "539 1 255"),
  .ofRuns
    ["1250", "cp1250", "windows_1250"]
    ("1 8364 1 0 1 8218 1 0 1 8222 1 8230 2 8224 1 0 1 8240 1 352 1 8249 1 346 1 356 1 381 1 " ++
       "377 1 0 2 8216 2 8220 1 8226 2 8211 1 0 1 8482 1 353 1 8250 1 347 1 357 1 382 1 378 1 " ++
       "160 1 711 1 728 1 321 1 164 1 260 4 166 1 350 4 171 1 379 2 176 1 731 1 322 5 180 1 " ++
       "261 1 351 1 187 1 317 1 733 1 318 1 380 1 340 2 193 1 258 1 196 1 313 1 262 1 199 1 " ++
       "268 1 201 1 280 1 203 1 282 2 205 1 270 1 272 1 323 1 327 2 211 1 336 2 214 1 344 1 " ++
       "366 1 218 1 368 2 220 1 354 1 223 1 341 2 225 1 259 1 228 1 314 1 263 1 231 1 269 1 " ++
       "233 1 281 1 235 1 283 2 237 1 271 1 273 1 324 1 328 2 243 1 337 2 246 1 345 1 367 1 " ++
       "250 1 369 2 252 1 355 1 729"),
  .ofRuns
    ["1251", "cp1251", "windows_1251"]
    ("2 1026 1 8218 1 1107 1 8222 1 8230 2 8224 1 8364 1 8240 1 1033 1 8249 1 1034 1 1036 1 " ++
       "1035 1 1039 1 1106 2 8216 2 8220 1 8226 2 8211 1 0 1 8482 1 1113 1 8250 1 1114 1 1116 " ++
       "1 1115 1 1119 1 160 1 1038 1 1118 1 1032 1 164 1 1168 2 166 1 1025 1 169 1 1028 4 171 " ++
       "1 1031 2 176 1 1030 1 1110 1 1169 3 181 1 1105 1 8470 1 1108 1 187 1 1112 1 1029 1 " ++
       "1109 1 1111 64 1040"),
  .ofRuns
    ["1252", "cp1252", "windows_1252"]
    ("1 8364 1 0 1 8218 1 402 1 8222 1 8230 2 8224 1 710 1 8240 1 352 1 8249 1 338 1 0 1 381 " ++
       "2 0 2 8216 2 8220 1 8226 2 8211 1 732 1 8482 1 353 1 8250 1 339 1 0 1 382 1 376 96 160"),
  .ofRuns
    ["1253", "cp1253", "windows_1253"]
    ("1 8364 1 0 1 8218 1 402 1 8222 1 8230 2 8224 1 0 1 8240 1 0 1 8249 5 0 2 8216 2 8220 1 " ++
       "8226 2 8211 1 0 1 8482 1 0 1 8250 4 0 1 160 2 901 7 163 1 0 4 171 1 8213 4 176 1 900 3 " ++
       "181 3 904 1 187 1 908 1 189 20 910 1 0 44 931 1 0"),
  .ofRuns
    ["1254", "cp1254", "windows_1254"]
    ("1 8364 1 0 1 8218 1 402 1 8222 1 8230 2 8224 1 710 1 8240 1 352 1 8249 1 338 4 0 2 " ++
       "8216 2 8220 1 8226 2 8211 1 732 1 8482 1 353 1 8250 1 339 2 0 1 376 48 160 1 286 12 " ++
       "209 1 304 1 350 17 223 1 287 12 241 1 305 1 351 1 255"),
  .ofRuns
    ["1255", "cp1255", "windows_1255"]
    ("1 8364 1 0 1 8218 1 402 1 8222 1 8230 2 8224 1 710 1 8240 1 0 1 8249 5 0 2 8216 2 8220 " ++
       "1 8226 2 8211 1 732 1 8482 1 0 1 8250 4 0 4 160 1 8362 5 165 1 215 15 171 1 247 5 187 " ++
       "10 1456 1 0 9 1467 5 1520 7 0 27 1488 2 0 2 8206 1 0"),
  .ofRuns
    ["1256", "cp1256", "windows_1256"]
    ("1 8364 1 1662 1 8218 1 402 1 8222 1 8230 2 8224 1 710 1 8240 1 1657 1 8249 1 338 1 " ++
       "1670 1 1688 1 1672 1 1711 2 8216 2 8220 1 8226 2 8211 1 1705 1 8482 1 1681 1 8250 1 " ++
       "339 2 8204 1 1722 1 160 1 1548 8 162 1 1726 15 171 1 1563 4 187 1 1567 1 1729 22 1569 " ++
       "1 215 4 1591 4 1600 1 224 1 1604 1 226 4 1605 5 231 2 1609 2 238 4 1611 1 244 2 1615 1 " ++
       "247 1 1617 1 249 1 1618 2 251 2 8206 1 1746"),
  .ofRuns
    ["1257", "cp1257", "windows_1257"]
    ("1 8364 1 0 1 8218 1 0 1 8222 1 8230 2 8224 1 0 1 8240 1 0 1 8249 1 0 1 168 1 711 1 184 " ++
       "1 0 2 8216 2 8220 1 8226 2 8211 1 0 1 8482 1 0 1 8250 1 0 1 175 1 731 1 0 1 160 1 0 3 " ++
       "162 1 0 2 166 1 216 1 169 1 342 4 171 1 198 8 176 1 248 1 185 1 343 4 187 1 230 1 260 " ++
       "1 302 1 256 1 262 2 196 1 280 1 274 1 268 1 201 1 377 1 278 1 290 1 310 1 298 1 315 1 " ++
       "352 1 323 1 325 1 211 1 332 3 213 1 370 1 321 1 346 1 362 1 220 1 379 1 381 1 223 1 " ++
       "261 1 303 1 257 1 263 2 228 1 281 1 275 1 269 1 233 1 378 1 279 1 291 1 311 1 299 1 " ++
       "316 1 353 1 324 1 326 1 243 1 333 3 245 1 371 1 322 1 347 1 363 1 252 1 380 1 382 1 " ++
       "729"),
  .ofRuns
    ["1258", "cp1258", "windows_1258"]
    ("1 8364 1 0 1 8218 1 402 1 8222 1 8230 2 8224 1 710 1 8240 1 0 1 8249 1 338 4 0 2 8216 " ++
       "2 8220 1 8226 2 8211 1 732 1 8482 1 0 1 8250 1 339 2 0 1 376 35 160 1 258 8 196 1 768 " ++
       "3 205 1 272 1 209 1 777 2 211 1 416 7 214 1 431 1 771 4 223 1 259 8 228 1 769 3 237 1 " ++
       "273 1 241 1 803 2 243 1 417 7 246 1 432 1 8363 1 255"),
  .ofRuns
    ["cskoi8r", "koi8_r"]
    ("1 9472 1 9474 1 9484 1 9488 1 9492 1 9496 1 9500 1 9508 1 9516 1 9524 1 9532 1 9600 1 " ++
       "9604 1 9608 1 9612 4 9616 1 8992 1 9632 2 8729 1 8776 2 8804 1 160 1 8993 1 176 1 178 " ++
       "1 183 1 247 3 9552 1 1105 15 9555 1 1025 11 9570 1 169 1 1102 2 1072 1 1094 2 1076 1 " ++
       "1092 1 1075 1 1093 8 1080 1 1103 4 1088 1 1078 1 1074 1 1100 1 1099 1 1079 1 1096 1 " ++
       "1101 1 1097 1 1095 1 1098 1 1070 2 1040 1 1062 2 1044 1 1060 1 1043 1 1061 8 1048 1 " ++
       "1071 4 1056 1 1046 1 1042 1 1068 1 1067 1 1047 1 1064 1 1069 1 1065 1 1063 1 1066"),
  .ofRuns
    ["koi8_u"]
    ("1 9472 1 9474 1 9484 1 9488 1 9492 1 9496 1 9500 1 9508 1 9516 1 9524 1 9532 1 9600 1 " ++
       "9604 1 9608 1 9612 4 9616 1 8992 1 9632 2 8729 1 8776 2 8804 1 160 1 8993 1 176 1 178 " ++
       "1 183 1 247 3 9552 1 1105 1 1108 1 9556 2 1110 5 9559 1 1169 5 9565 1 1025 1 1028 1 " ++
       "9571 2 1030 5 9574 1 1168 1 9580 1 169 1 1102 2 1072 1 1094 2 1076 1 1092 1 1075 1 " ++
       "1093 8 1080 1 1103 4 1088 1 1078 1 1074 1 1100 1 1099 1 1079 1 1096 1 1101 1 1097 1 " ++
       "1095 1 1098 1 1070 2 1040 1 1062 2 1044 1 1060 1 1043 1 1061 8 1048 1 1071 4 1056 1 " ++
       "1046 1 1042 1 1068 1 1067 1 1047 1 1064 1 1069 1 1065 1 1063 1 1066"),
  .ofRuns
    ["437", "cp437", "cspc8codepage437", "ibm437"]
    ("1 199 1 252 1 233 1 226 1 228 1 224 1 229 1 231 2 234 1 232 1 239 1 238 1 236 2 196 1 " ++
       "201 1 230 1 198 1 244 1 246 1 242 1 251 1 249 1 255 1 214 1 220 2 162 1 165 1 8359 1 " ++
       "402 1 225 1 237 1 243 1 250 1 241 1 209 1 170 1 186 1 191 1 8976 1 172 1 189 1 188 1 " ++
       "161 1 171 1 187 3 9617 1 9474 1 9508 2 9569 1 9558 1 9557 1 9571 1 9553 1 9559 1 9565 " ++
       "1 9564 1 9563 1 9488 1 9492 1 9524 1 9516 1 9500 1 9472 1 9532 2 9566 1 9562 1 9556 1 " ++
       "9577 1 9574 1 9568 1 9552 1 9580 2 9575 2 9572 1 9561 1 9560 2 9554 1 9579 1 9578 1 " ++
       "9496 1 9484 1 9608 1 9604 1 9612 1 9616 1 9600 1 945 1 223 1 915 1 960 1 931 1 963 1 " ++
       "181 1 964 1 934 1 920 1 937 1 948 1 8734 1 966 1 949 1 8745 1 8801 1 177 1 8805 1 8804 " ++
       "2 8992 1 247 1 8776 1 176 1 8729 1 183 1 8730 1 8319 1 178 1 9632 1 160"),
  .ofRuns
    ["850", "cp850", "cspc850multilingual", "ibm850"]
    ("1 199 1 252 1 233 1 226 1 228 1 224 1 229 1 231 2 234 1 232 1 239 1 238 1 236 2 196 1 " ++
       "201 1 230 1 198 1 244 1 246 1 242 1 251 1 249 1 255 1 214 1 220 1 248 1 163 1 216 1 " ++
       "215 1 402 1 225 1 237 1 243 1 250 1 241 1 209 1 170 1 186 1 191 1 174 1 172 1 189 1 " ++
       "188 1 161 1 171 1 187 3 9617 1 9474 1 9508 2 193 1 192 1 169 1 9571 1 9553 1 9559 1 " ++
       "9565 1 162 1 165 1 9488 1 9492 1 9524 1 9516 1 9500 1 9472 1 9532 1 227 1 195 1 9562 1 " ++
       "9556 1 9577 1 9574 1 9568 1 9552 1 9580 1 164 1 240 1 208 2 202 1 200 1 305 3 205 1 " ++
       "9496 1 9484 1 9608 1 9604 1 166 1 204 1 9600 1 211 1 223 1 212 1 210 1 245 1 213 1 181 " ++
       "1 254 1 222 2 218 1 217 1 253 1 221 1 175 1 180 1 173 1 177 1 8215 1 190 1 182 1 167 1 " ++
       "247 1 184 1 176 1 168 1 183 1 185 1 179 1 178 1 9632 1 160"),
  .ofRuns
    ["852", "cp852", "cspcp852", "ibm852"]
    ("1 199 1 252 1 233 1 226 1 228 1 367 1 263 1 231 1 322 1 235 2 336 1 238 1 377 1 196 1 " ++
       "262 1 201 2 313 1 244 1 246 2 317 2 346 1 214 1 220 2 356 1 321 1 215 1 269 1 225 1 " ++
       "237 1 243 1 250 2 260 2 381 2 280 1 172 1 378 1 268 1 351 1 171 1 187 3 9617 1 9474 1 " ++
       "9508 2 193 1 282 1 350 1 9571 1 9553 1 9559 1 9565 2 379 1 9488 1 9492 1 9524 1 9516 1 " ++
       "9500 1 9472 1 9532 2 258 1 9562 1 9556 1 9577 1 9574 1 9568 1 9552 1 9580 1 164 1 273 " ++
       "1 272 1 270 1 203 1 271 1 327 2 205 1 283 1 9496 1 9484 1 9608 1 9604 1 354 1 366 1 " ++
       "9600 1 211 1 223 1 212 2 323 1 328 2 352 1 340 1 218 1 341 1 368 1 253 1 221 1 355 1 " ++
       "180 1 173 1 733 1 731 1 711 1 728 1 167 1 247 1 184 1 176 1 168 1 729 1 369 2 344 1 " ++
       "9632 1 160"),
  .ofRuns
    ["866", "cp866", "csibm866", "ibm866"]
    ("48 1040 3 9617 1 9474 1 9508 2 9569 1 9558 1 9557 1 9571 1 9553 1 9559 1 9565 1 9564 1 " ++
       "9563 1 9488 1 9492 1 9524 1 9516 1 9500 1 9472 1 9532 2 9566 1 9562 1 9556 1 9577 1 " ++
       "9574 1 9568 1 9552 1 9580 2 9575 2 9572 1 9561 1 9560 2 9554 1 9579 1 9578 1 9496 1 " ++
       "9484 1 9608 1 9604 1 9612 1 9616 1 9600 16 1088 1 1025 1 1105 1 1028 1 1108 1 1031 1 " ++
       "1111 1 1038 1 1118 1 176 1 8729 1 183 1 8730 1 8470 1 164 1 9632 1 160"),
  .ofRuns
    ["mac_roman", "macintosh", "macroman"]
    ("2 196 1 199 1 201 1 209 1 214 1 220 1 225 1 224 1 226 1 228 1 227 1 229 1 231 1 233 1 " ++
       "232 2 234 1 237 1 236 2 238 1 241 1 243 1 242 1 244 1 246 1 245 1 250 1 249 2 251 1 " ++
       "8224 1 176 2 162 1 167 1 8226 1 182 1 223 1 174 1 169 1 8482 1 180 1 168 1 8800 1 198 " ++
       "1 216 1 8734 1 177 2 8804 1 165 1 181 1 8706 1 8721 1 8719 1 960 1 8747 1 170 1 186 1 " ++
       "937 1 230 1 248 1 191 1 161 1 172 1 8730 1 402 1 8776 1 8710 1 171 1 187 1 8230 1 160 " ++
       "1 192 1 195 1 213 2 338 2 8211 2 8220 2 8216 1 247 1 9674 1 255 1 376 1 8260 1 8364 2 " ++
       "8249 2 64257 1 8225 1 183 1 8218 1 8222 1 8240 1 194 1 202 1 193 1 203 1 200 3 205 1 " ++
       "204 2 211 1 63743 1 210 2 218 1 217 1 305 1 710 1 732 1 175 3 728 1 184 1 733 1 731 1 " ++
       "711"),
  .ofRuns
    ["cp1006"]
    ("33 128 10 1776 1 1548 1 1563 1 173 1 1567 1 65153 2 65165 2 65166 1 65169 1 64342 1 " ++
       "64344 1 65171 1 65173 1 65175 1 64358 1 64360 1 65177 1 65179 1 65181 1 65183 1 64378 " ++
       "1 64380 1 65185 1 65187 1 65189 1 65191 1 65193 1 64388 1 65195 1 65197 1 64396 1 " ++
       "65199 1 64394 1 65201 1 65203 1 65205 1 65207 1 65209 1 65211 1 65213 1 65215 1 65217 " ++
       "1 65221 9 65225 1 65235 1 65237 1 65239 1 65241 1 65243 1 64402 1 64404 1 65245 3 " ++
       "65247 1 65251 1 64414 1 65253 1 65255 1 65157 1 65261 1 64422 3 64424 1 65152 3 65161 " ++
       "3 65265 1 64432 1 64430 2 65148"),
  .ofRuns
    ["cp1051", "hp_roman8", "ibm1051", "r8", "roman8"]
    ("33 128 1 192 1 194 1 200 2 202 2 206 1 180 1 715 1 710 1 168 1 732 1 217 1 219 1 8356 " ++
       "1 175 1 221 1 253 1 176 1 199 1 231 1 209 1 241 1 161 1 191 1 164 1 163 1 165 1 167 1 " ++
       "402 1 162 1 226 1 234 1 244 1 251 1 225 1 233 1 243 1 250 1 224 1 232 1 242 1 249 1 " ++
       "228 1 235 1 246 1 252 1 197 1 238 1 216 1 198 1 229 1 237 1 248 1 230 1 196 1 236 1 " ++
       "214 1 220 1 201 1 239 1 223 1 212 1 193 1 195 1 227 1 208 1 240 1 205 1 204 1 211 1 " ++
       "210 1 213 1 245 2 352 1 218 1 376 1 255 1 222 1 254 1 183 2 181 1 190 1 8212 2 188 1 " ++
       "170 1 186 1 171 1 9632 1 187 1 177 1 0"),
  .ofRuns
    ["cp1125", "cp866u", "ibm1125", "ruscii"]
    ("48 1040 3 9617 1 9474 1 9508 2 9569 1 9558 1 9557 1 9571 1 9553 1 9559 1 9565 1 9564 " ++
       "1 9563 1 9488 1 9492 1 9524 1 9516 1 9500 1 9472 1 9532 2 9566 1 9562 1 9556 1 9577 1 " ++
       "9574 1 9568 1 9552 1 9580 2 9575 2 9572 1 9561 1 9560 2 9554 1 9579 1 9578 1 9496 1 " ++
       "9484 1 9608 1 9604 1 9612 1 9616 1 9600 16 1088 1 1025 1 1105 2 1168 1 1028 1 1108 1 " ++
       "1030 1 1110 1 1031 1 1111 1 183 1 8730 1 8470 1 164 1 9632 1 160"),
  .ofRuns
    ["cp154", "csptcp154", "cyrillic_asian", "pt154", "ptcp154"]
    ("1 1174 1 1170 1 1262 1 1171 1 8222 1 8230 1 1206 1 1198 1 1202 1 1199 1 1184 1 1250 1 " ++
       "1186 1 1178 1 1210 1 1208 1 1175 2 8216 2 8220 1 8226 2 8211 1 1203 1 1207 1 1185 1 " ++
       "1251 1 1187 1 1179 1 1211 1 1209 1 160 1 1038 1 1118 1 1032 1 1256 1 1176 1 1200 1 " ++
       "167 1 1025 1 169 1 1240 2 171 1 1263 1 174 1 1180 1 176 1 1201 1 1030 1 1110 1 1177 1 " ++
       "1257 2 182 1 1105 1 8470 1 1241 1 187 1 1112 2 1194 1 1181 64 1040"),
  .ofRuns
    ["cp720"]
    ("2 128 1 233 1 226 1 132 1 224 1 134 1 231 2 234 1 232 1 239 1 238 4 141 2 1617 1 244 " ++
       "1 164 1 1600 1 251 1 249 4 1569 1 163 17 1573 1 171 1 187 3 9617 1 9474 1 9508 2 9569 " ++
       "1 9558 1 9557 1 9571 1 9553 1 9559 1 9565 1 9564 1 9563 1 9488 1 9492 1 9524 1 9516 1 " ++
       "9500 1 9472 1 9532 2 9566 1 9562 1 9556 1 9577 1 9574 1 9568 1 9552 1 9580 2 9575 2 " ++
       "9572 1 9561 1 9560 2 9554 1 9579 1 9578 1 9496 1 9484 1 9608 1 9604 1 9612 1 9616 1 " ++
       "9600 5 1590 1 1601 1 181 9 1602 1 8801 6 1611 1 8776 1 176 1 8729 1 183 1 8730 1 8319 " ++
       "1 178 1 9632 1 160"),
  .ofRuns
    ["cp737"]
    ("17 913 7 931 17 945 1 963 1 962 5 964 3 9617 1 9474 1 9508 2 9569 1 9558 1 9557 1 " ++
       "9571 1 9553 1 9559 1 9565 1 9564 1 9563 1 9488 1 9492 1 9524 1 9516 1 9500 1 9472 1 " ++
       "9532 2 9566 1 9562 1 9556 1 9577 1 9574 1 9568 1 9552 1 9580 2 9575 2 9572 1 9561 1 " ++
       "9560 2 9554 1 9579 1 9578 1 9496 1 9484 1 9608 1 9604 1 9612 1 9616 1 9600 1 969 3 " ++
       "940 1 970 1 943 2 972 1 971 1 974 1 902 3 904 1 908 2 910 1 177 1 8805 1 8804 2 938 1 " ++
       "247 1 8776 1 176 1 8729 1 183 1 8730 1 8319 1 178 1 9632 1 160"),
  .ofRuns
    ["cp775", "cspc775baltic", "ibm775"]
    ("1 262 1 252 1 233 1 257 1 228 1 291 1 229 1 263 1 322 1 275 2 342 1 299 1 377 2 196 1 " ++
       "201 1 230 1 198 1 333 1 246 1 290 1 162 2 346 1 214 1 220 1 248 1 163 1 216 1 215 1 " ++
       "164 1 256 1 298 1 243 2 379 1 378 1 8221 1 166 1 169 1 174 1 172 1 189 1 188 1 321 1 " ++
       "171 1 187 3 9617 1 9474 1 9508 1 260 1 268 1 280 1 278 1 9571 1 9553 1 9559 1 9565 1 " ++
       "302 1 352 1 9488 1 9492 1 9524 1 9516 1 9500 1 9472 1 9532 1 370 1 362 1 9562 1 9556 " ++
       "1 9577 1 9574 1 9568 1 9552 1 9580 1 381 1 261 1 269 1 281 1 279 1 303 1 353 1 371 1 " ++
       "363 1 382 1 9496 1 9484 1 9608 1 9604 1 9612 1 9616 1 9600 1 211 1 223 1 332 1 323 1 " ++
       "245 1 213 1 181 1 324 2 310 2 315 1 326 1 274 1 325 1 8217 1 173 1 177 1 8220 1 190 1 " ++
       "182 1 167 1 247 1 8222 1 176 1 8729 1 183 1 185 1 179 1 178 1 9632 1 160"),
  .ofRuns
    ["cp855", "csibm855", "ibm855"]
    ("1 1106 1 1026 1 1107 1 1027 1 1105 1 1025 1 1108 1 1028 1 1109 1 1029 1 1110 1 1030 1 " ++
       "1111 1 1031 1 1112 1 1032 1 1113 1 1033 1 1114 1 1034 1 1115 1 1035 1 1116 1 1036 1 " ++
       "1118 1 1038 1 1119 1 1039 1 1102 1 1070 1 1098 1 1066 1 1072 1 1040 1 1073 1 1041 1 " ++
       "1094 1 1062 1 1076 1 1044 1 1077 1 1045 1 1092 1 1060 1 1075 1 1043 1 171 1 187 3 " ++
       "9617 1 9474 1 9508 1 1093 1 1061 1 1080 1 1048 1 9571 1 9553 1 9559 1 9565 1 1081 1 " ++
       "1049 1 9488 1 9492 1 9524 1 9516 1 9500 1 9472 1 9532 1 1082 1 1050 1 9562 1 9556 1 " ++
       "9577 1 9574 1 9568 1 9552 1 9580 1 164 1 1083 1 1051 1 1084 1 1052 1 1085 1 1053 1 " ++
       "1086 1 1054 1 1087 1 9496 1 9484 1 9608 1 9604 1 1055 1 1103 1 9600 1 1071 1 1088 1 " ++
       "1056 1 1089 1 1057 1 1090 1 1058 1 1091 1 1059 1 1078 1 1046 1 1074 1 1042 1 1100 1 " ++
       "1068 1 8470 1 173 1 1099 1 1067 1 1079 1 1047 1 1096 1 1064 1 1101 1 1069 1 1097 1 " ++
       "1065 1 1095 1 1063 1 167 1 9632 1 160"),
  .ofRuns
    ["cp856"]
    ("27 1488 1 0 1 163 1 0 1 215 10 0 1 174 1 172 1 189 1 188 1 0 1 171 1 187 3 9617 1 " ++
       "9474 1 9508 3 0 1 169 1 9571 1 9553 1 9559 1 9565 1 162 1 165 1 9488 1 9492 1 9524 1 " ++
       "9516 1 9500 1 9472 1 9532 2 0 1 9562 1 9556 1 9577 1 9574 1 9568 1 9552 1 9580 1 164 " ++
       "9 0 1 9496 1 9484 1 9608 1 9604 1 166 1 0 1 9600 6 0 1 181 7 0 1 175 1 180 1 173 1 " ++
       "177 1 8215 1 190 1 182 1 167 1 247 1 184 1 176 1 168 1 183 1 185 1 179 1 178 1 9632 1 " ++
       "160"),
  .ofRuns
    ["cp857", "csibm857", "ibm857"]
    ("1 199 1 252 1 233 1 226 1 228 1 224 1 229 1 231 2 234 1 232 1 239 1 238 1 305 2 196 1 " ++
       "201 1 230 1 198 1 244 1 246 1 242 1 251 1 249 1 304 1 214 1 220 1 248 1 163 1 216 2 " ++
       "350 1 225 1 237 1 243 1 250 1 241 1 209 2 286 1 191 1 174 1 172 1 189 1 188 1 161 1 " ++
       "171 1 187 3 9617 1 9474 1 9508 2 193 1 192 1 169 1 9571 1 9553 1 9559 1 9565 1 162 1 " ++
       "165 1 9488 1 9492 1 9524 1 9516 1 9500 1 9472 1 9532 1 227 1 195 1 9562 1 9556 1 9577 " ++
       "1 9574 1 9568 1 9552 1 9580 1 164 1 186 1 170 2 202 1 200 1 0 3 205 1 9496 1 9484 1 " ++
       "9608 1 9604 1 166 1 204 1 9600 1 211 1 223 1 212 1 210 1 245 1 213 1 181 1 0 1 215 2 " ++
       "218 1 217 1 236 1 255 1 175 1 180 1 173 1 177 1 0 1 190 1 182 1 167 1 247 1 184 1 176 " ++
       "1 168 1 183 1 185 1 179 1 178 1 9632 1 160"),
  .ofRuns
    ["cp858", "csibm858", "ibm858"]
    ("1 199 1 252 1 233 1 226 1 228 1 224 1 229 1 231 2 234 1 232 1 239 1 238 1 236 2 196 1 " ++
       "201 1 230 1 198 1 244 1 246 1 242 1 251 1 249 1 255 1 214 1 220 1 248 1 163 1 216 1 " ++
       "215 1 402 1 225 1 237 1 243 1 250 1 241 1 209 1 170 1 186 1 191 1 174 1 172 1 189 1 " ++
       "188 1 161 1 171 1 187 3 9617 1 9474 1 9508 2 193 1 192 1 169 1 9571 1 9553 1 9559 1 " ++
       "9565 1 162 1 165 1 9488 1 9492 1 9524 1 9516 1 9500 1 9472 1 9532 1 227 1 195 1 9562 " ++
       "1 9556 1 9577 1 9574 1 9568 1 9552 1 9580 1 164 1 240 1 208 2 202 1 200 1 8364 3 205 " ++
       "1 9496 1 9484 1 9608 1 9604 1 166 1 204 1 9600 1 211 1 223 1 212 1 210 1 245 1 213 1 " ++
       "181 1 254 1 222 2 218 1 217 1 253 1 221 1 175 1 180 1 173 1 177 1 8215 1 190 1 182 1 " ++
       "167 1 247 1 184 1 176 1 168 1 183 1 185 1 179 1 178 1 9632 1 160"),
  .ofRuns
    ["cp860", "csibm860", "ibm860"]
    ("1 199 1 252 1 233 2 226 1 224 1 193 1 231 1 234 1 202 1 232 1 205 1 212 1 236 1 195 1 " ++
       "194 1 201 1 192 1 200 2 244 1 242 1 218 1 249 1 204 1 213 1 220 2 162 1 217 1 8359 1 " ++
       "211 1 225 1 237 1 243 1 250 1 241 1 209 1 170 1 186 1 191 1 210 1 172 1 189 1 188 1 " ++
       "161 1 171 1 187 3 9617 1 9474 1 9508 2 9569 1 9558 1 9557 1 9571 1 9553 1 9559 1 9565 " ++
       "1 9564 1 9563 1 9488 1 9492 1 9524 1 9516 1 9500 1 9472 1 9532 2 9566 1 9562 1 9556 1 " ++
       "9577 1 9574 1 9568 1 9552 1 9580 2 9575 2 9572 1 9561 1 9560 2 9554 1 9579 1 9578 1 " ++
       "9496 1 9484 1 9608 1 9604 1 9612 1 9616 1 9600 1 945 1 223 1 915 1 960 1 931 1 963 1 " ++
       "181 1 964 1 934 1 920 1 937 1 948 1 8734 1 966 1 949 1 8745 1 8801 1 177 1 8805 1 " ++
       "8804 2 8992 1 247 1 8776 1 176 1 8729 1 183 1 8730 1 8319 1 178 1 9632 1 160"),
  .ofRuns
    ["cp861", "cp_is", "csibm861", "ibm861"]
    ("1 199 1 252 1 233 1 226 1 228 1 224 1 229 1 231 2 234 1 232 1 208 1 240 1 222 2 196 1 " ++
       "201 1 230 1 198 1 244 1 246 1 254 1 251 1 221 1 253 1 214 1 220 1 248 1 163 1 216 1 " ++
       "8359 1 402 1 225 1 237 1 243 1 250 1 193 1 205 1 211 1 218 1 191 1 8976 1 172 1 189 1 " ++
       "188 1 161 1 171 1 187 3 9617 1 9474 1 9508 2 9569 1 9558 1 9557 1 9571 1 9553 1 9559 " ++
       "1 9565 1 9564 1 9563 1 9488 1 9492 1 9524 1 9516 1 9500 1 9472 1 9532 2 9566 1 9562 1 " ++
       "9556 1 9577 1 9574 1 9568 1 9552 1 9580 2 9575 2 9572 1 9561 1 9560 2 9554 1 9579 1 " ++
       "9578 1 9496 1 9484 1 9608 1 9604 1 9612 1 9616 1 9600 1 945 1 223 1 915 1 960 1 931 1 " ++
       "963 1 181 1 964 1 934 1 920 1 937 1 948 1 8734 1 966 1 949 1 8745 1 8801 1 177 1 8805 " ++
       "1 8804 2 8992 1 247 1 8776 1 176 1 8729 1 183 1 8730 1 8319 1 178 1 9632 1 160"),
  .ofRuns
    ["cp862", "cspc862latinhebrew", "ibm862"]
    ("27 1488 2 162 1 165 1 8359 1 402 1 225 1 237 1 243 1 250 1 241 1 209 1 170 1 186 1 " ++
       "191 1 8976 1 172 1 189 1 188 1 161 1 171 1 187 3 9617 1 9474 1 9508 2 9569 1 9558 1 " ++
       "9557 1 9571 1 9553 1 9559 1 9565 1 9564 1 9563 1 9488 1 9492 1 9524 1 9516 1 9500 1 " ++
       "9472 1 9532 2 9566 1 9562 1 9556 1 9577 1 9574 1 9568 1 9552 1 9580 2 9575 2 9572 1 " ++
       "9561 1 9560 2 9554 1 9579 1 9578 1 9496 1 9484 1 9608 1 9604 1 9612 1 9616 1 9600 1 " ++
       "945 1 223 1 915 1 960 1 931 1 963 1 181 1 964 1 934 1 920 1 937 1 948 1 8734 1 966 1 " ++
       "949 1 8745 1 8801 1 177 1 8805 1 8804 2 8992 1 247 1 8776 1 176 1 8729 1 183 1 8730 1 " ++
       "8319 1 178 1 9632 1 160"),
  .ofRuns
    ["cp863", "csibm863", "ibm863"]
    ("1 199 1 252 1 233 1 226 1 194 1 224 1 182 1 231 2 234 1 232 1 239 1 238 1 8215 1 192 " ++
       "1 167 1 201 1 200 1 202 1 244 1 203 1 207 1 251 1 249 1 164 1 212 1 220 2 162 1 217 1 " ++
       "219 1 402 1 166 1 180 1 243 1 250 1 168 1 184 1 179 1 175 1 206 1 8976 1 172 1 189 1 " ++
       "188 1 190 1 171 1 187 3 9617 1 9474 1 9508 2 9569 1 9558 1 9557 1 9571 1 9553 1 9559 " ++
       "1 9565 1 9564 1 9563 1 9488 1 9492 1 9524 1 9516 1 9500 1 9472 1 9532 2 9566 1 9562 1 " ++
       "9556 1 9577 1 9574 1 9568 1 9552 1 9580 2 9575 2 9572 1 9561 1 9560 2 9554 1 9579 1 " ++
       "9578 1 9496 1 9484 1 9608 1 9604 1 9612 1 9616 1 9600 1 945 1 223 1 915 1 960 1 931 1 " ++
       "963 1 181 1 964 1 934 1 920 1 937 1 948 1 8734 1 966 1 949 1 8745 1 8801 1 177 1 8805 " ++
       "1 8804 2 8992 1 247 1 8776 1 176 1 8729 1 183 1 8730 1 8319 1 178 1 9632 1 160"),
  .ofRuns
    ["cp865", "csibm865", "ibm865"]
    ("1 199 1 252 1 233 1 226 1 228 1 224 1 229 1 231 2 234 1 232 1 239 1 238 1 236 2 196 1 " ++
       "201 1 230 1 198 1 244 1 246 1 242 1 251 1 249 1 255 1 214 1 220 1 248 1 163 1 216 1 " ++
       "8359 1 402 1 225 1 237 1 243 1 250 1 241 1 209 1 170 1 186 1 191 1 8976 1 172 1 189 1 " ++
       "188 1 161 1 171 1 164 3 9617 1 9474 1 9508 2 9569 1 9558 1 9557 1 9571 1 9553 1 9559 " ++
       "1 9565 1 9564 1 9563 1 9488 1 9492 1 9524 1 9516 1 9500 1 9472 1 9532 2 9566 1 9562 1 " ++
       "9556 1 9577 1 9574 1 9568 1 9552 1 9580 2 9575 2 9572 1 9561 1 9560 2 9554 1 9579 1 " ++
       "9578 1 9496 1 9484 1 9608 1 9604 1 9612 1 9616 1 9600 1 945 1 223 1 915 1 960 1 931 1 " ++
       "963 1 181 1 964 1 934 1 920 1 937 1 948 1 8734 1 966 1 949 1 8745 1 8801 1 177 1 8805 " ++
       "1 8804 2 8992 1 247 1 8776 1 176 1 8729 1 183 1 8730 1 8319 1 178 1 9632 1 160"),
  .ofRuns
    ["cp869", "cp_gr", "csibm869", "ibm869"]
    ("6 0 1 902 1 0 1 183 1 172 1 166 2 8216 1 904 1 8213 2 905 1 938 1 908 2 0 1 910 1 939 " ++
       "1 169 1 911 2 178 1 940 1 163 3 941 1 970 1 912 2 972 7 913 1 189 2 920 1 171 1 187 3 " ++
       "9617 1 9474 1 9508 4 922 1 9571 1 9553 1 9559 1 9565 2 926 1 9488 1 9492 1 9524 1 " ++
       "9516 1 9500 1 9472 1 9532 2 928 1 9562 1 9556 1 9577 1 9574 1 9568 1 9552 1 9580 7 " ++
       "931 3 945 1 9496 1 9484 1 9608 1 9604 2 948 1 9600 12 950 1 963 1 962 1 964 1 900 1 " ++
       "173 1 177 3 965 1 167 1 968 1 901 1 176 1 168 1 969 1 971 1 944 1 974 1 9632 1 160"),
  .ofRuns
    ["cp874"]
    ("1 8364 4 0 1 8230 11 0 2 8216 2 8220 1 8226 2 8211 8 0 1 160 58 3585 4 0 29 3647 4 0"),
  .ofRuns
    ["iso_ir_166", "tis620", "tis_620", "tis_620_0", "tis_620_2529_0", "tis_620_2529_1"]
    ("32 128 1 0 58 3585 4 0 29 3647 4 0"),
  .ofRuns
    ["koi8_t"]
    ("1 1179 1 1171 1 8218 1 1170 1 8222 1 8230 2 8224 1 0 1 8240 1 1203 1 8249 1 1202 1 " ++
       "1207 1 1206 1 0 1 1178 2 8216 2 8220 1 8226 2 8211 1 0 1 8482 1 0 1 8250 5 0 1 1263 1 " ++
       "1262 1 1105 1 164 1 1251 2 166 3 0 4 171 1 0 3 176 1 1025 1 0 1 1250 2 182 1 0 1 8470 " ++
       "1 0 1 187 3 0 1 169 1 1102 2 1072 1 1094 2 1076 1 1092 1 1075 1 1093 8 1080 1 1103 4 " ++
       "1088 1 1078 1 1074 1 1100 1 1099 1 1079 1 1096 1 1101 1 1097 1 1095 1 1098 1 1070 2 " ++
       "1040 1 1062 2 1044 1 1060 1 1043 1 1061 8 1048 1 1071 4 1056 1 1046 1 1042 1 1068 1 " ++
       "1067 1 1047 1 1064 1 1069 1 1065 1 1063 1 1066"),
  .ofRuns
    ["kz1048", "kz_1048", "rk1048", "strk1048_2002"]
    ("2 1026 1 8218 1 1107 1 8222 1 8230 2 8224 1 8364 1 8240 1 1033 1 8249 1 1034 1 1178 1 " ++
       "1210 1 1039 1 1106 2 8216 2 8220 1 8226 2 8211 1 0 1 8482 1 1113 1 8250 1 1114 1 1179 " ++
       "1 1211 1 1119 1 160 2 1200 1 1240 1 164 1 1256 2 166 1 1025 1 169 1 1170 4 171 1 1198 " ++
       "2 176 1 1030 1 1110 1 1257 3 181 1 1105 1 8470 1 1171 1 187 1 1241 2 1186 1 1199 64 " ++
       "1040"),
  .ofRuns
    ["mac_cyrillic", "maccyrillic"]
    ("32 1040 1 8224 1 176 1 1168 1 163 1 167 1 8226 1 182 1 1030 1 174 1 169 1 8482 1 1026 " ++
       "1 1106 1 8800 1 1027 1 1107 1 8734 1 177 2 8804 1 1110 1 181 1 1169 1 1032 1 1028 1 " ++
       "1108 1 1031 1 1111 1 1033 1 1113 1 1034 1 1114 1 1112 1 1029 1 172 1 8730 1 402 1 " ++
       "8776 1 8710 1 171 1 187 1 8230 1 160 1 1035 1 1115 1 1036 1 1116 1 1109 2 8211 2 8220 " ++
       "2 8216 1 247 1 8222 1 1038 1 1118 1 1039 1 1119 1 8470 1 1025 1 1105 1 1103 31 1072 1 " ++
       "8364"),
  .ofRuns
    ["mac_centeuro", "mac_latin2", "maccentraleurope", "maclatin2"]
    ("1 196 2 256 1 201 1 260 1 214 1 220 1 225 1 261 1 268 1 228 1 269 2 262 1 233 2 377 1 " ++
       "270 1 237 1 271 2 274 1 278 1 243 1 279 1 244 1 246 1 245 1 250 2 282 1 252 1 8224 1 " ++
       "176 1 280 1 163 1 167 1 8226 1 182 1 223 1 174 1 169 1 8482 1 281 1 168 1 8800 1 291 " ++
       "2 302 1 298 2 8804 1 299 1 310 1 8706 1 8721 1 322 4 315 2 313 2 325 1 323 1 172 1 " ++
       "8730 1 324 1 327 1 8710 1 171 1 187 1 8230 1 160 1 328 1 336 1 213 1 337 1 332 2 8211 " ++
       "2 8220 2 8216 1 247 1 9674 1 333 2 340 1 344 2 8249 1 345 2 342 1 352 1 8218 1 8222 1 " ++
       "353 2 346 1 193 2 356 1 205 2 381 1 362 2 211 1 363 1 366 1 218 5 367 1 221 1 253 1 " ++
       "311 1 379 1 321 1 380 1 290 1 711"),
  .ofRuns
    ["mac_croatian"]
    ("2 196 1 199 1 201 1 209 1 214 1 220 1 225 1 224 1 226 1 228 1 227 1 229 1 231 1 233 1 " ++
       "232 2 234 1 237 1 236 2 238 1 241 1 243 1 242 1 244 1 246 1 245 1 250 1 249 2 251 1 " ++
       "8224 1 176 2 162 1 167 1 8226 1 182 1 223 1 174 1 352 1 8482 1 180 1 168 1 8800 1 381 " ++
       "1 216 1 8734 1 177 2 8804 1 8710 1 181 1 8706 1 8721 1 8719 1 353 1 8747 1 170 1 186 " ++
       "1 937 1 382 1 248 1 191 1 161 1 172 1 8730 1 402 1 8776 1 262 1 171 1 268 1 8230 1 " ++
       "160 1 192 1 195 1 213 2 338 1 272 1 8212 2 8220 2 8216 1 247 1 9674 1 63743 1 169 1 " ++
       "8260 1 8364 2 8249 1 198 1 187 1 8211 1 183 1 8218 1 8222 1 8240 1 194 1 263 1 193 1 " ++
       "269 1 200 3 205 1 204 2 211 1 273 1 210 2 218 1 217 1 305 1 710 1 732 1 175 1 960 1 " ++
       "203 1 730 1 184 1 202 1 230 1 711"),
  .ofRuns
    ["mac_greek", "macgreek"]
    ("1 196 1 185 1 178 1 201 1 179 1 214 1 220 1 901 1 224 1 226 1 228 1 900 1 168 1 231 1 " ++
       "233 1 232 2 234 1 163 1 8482 2 238 1 8226 1 189 1 8240 1 244 1 246 1 166 1 8364 1 249 " ++
       "2 251 1 8224 2 915 1 920 1 923 1 926 1 928 1 223 1 174 1 169 1 931 1 938 1 167 1 8800 " ++
       "1 176 1 183 1 913 1 177 2 8804 1 165 1 914 3 917 2 921 1 924 1 934 1 939 2 936 1 940 " ++
       "1 925 1 172 1 927 1 929 1 8776 1 932 1 171 1 187 1 8230 1 160 1 933 1 935 1 902 1 904 " ++
       "1 339 1 8211 1 8213 2 8220 2 8216 1 247 2 905 1 908 1 910 3 941 1 972 1 911 1 973 2 " ++
       "945 1 968 2 948 1 966 1 947 1 951 1 953 1 958 4 954 2 959 1 974 1 961 2 963 1 952 1 " ++
       "969 1 962 1 967 1 965 1 950 2 970 1 912 1 944 1 173"),
  .ofRuns
    ["mac_iceland", "maciceland"]
    ("2 196 1 199 1 201 1 209 1 214 1 220 1 225 1 224 1 226 1 228 1 227 1 229 1 231 1 233 1 " ++
       "232 2 234 1 237 1 236 2 238 1 241 1 243 1 242 1 244 1 246 1 245 1 250 1 249 2 251 1 " ++
       "221 1 176 2 162 1 167 1 8226 1 182 1 223 1 174 1 169 1 8482 1 180 1 168 1 8800 1 198 " ++
       "1 216 1 8734 1 177 2 8804 1 165 1 181 1 8706 1 8721 1 8719 1 960 1 8747 1 170 1 186 1 " ++
       "937 1 230 1 248 1 191 1 161 1 172 1 8730 1 402 1 8776 1 8710 1 171 1 187 1 8230 1 160 " ++
       "1 192 1 195 1 213 2 338 2 8211 2 8220 2 8216 1 247 1 9674 1 255 1 376 1 8260 1 8364 1 " ++
       "208 1 240 1 222 1 254 1 253 1 183 1 8218 1 8222 1 8240 1 194 1 202 1 193 1 203 1 200 " ++
       "3 205 1 204 2 211 1 63743 1 210 2 218 1 217 1 305 1 710 1 732 1 175 3 728 1 184 1 733 " ++
       "1 731 1 711"),
  .ofRuns
    ["mac_romanian"]
    ("2 196 1 199 1 201 1 209 1 214 1 220 1 225 1 224 1 226 1 228 1 227 1 229 1 231 1 233 1 " ++
       "232 2 234 1 237 1 236 2 238 1 241 1 243 1 242 1 244 1 246 1 245 1 250 1 249 2 251 1 " ++
       "8224 1 176 2 162 1 167 1 8226 1 182 1 223 1 174 1 169 1 8482 1 180 1 168 1 8800 1 258 " ++
       "1 536 1 8734 1 177 2 8804 1 165 1 181 1 8706 1 8721 1 8719 1 960 1 8747 1 170 1 186 1 " ++
       "937 1 259 1 537 1 191 1 161 1 172 1 8730 1 402 1 8776 1 8710 1 171 1 187 1 8230 1 160 " ++
       "1 192 1 195 1 213 2 338 2 8211 2 8220 2 8216 1 247 1 9674 1 255 1 376 1 8260 1 8364 2 " ++
       "8249 2 538 1 8225 1 183 1 8218 1 8222 1 8240 1 194 1 202 1 193 1 203 1 200 3 205 1 " ++
       "204 2 211 1 63743 1 210 2 218 1 217 1 305 1 710 1 732 1 175 3 728 1 184 1 733 1 731 1 " ++
       "711"),
  .ofRuns
    ["mac_turkish", "macturkish"]
    ("2 196 1 199 1 201 1 209 1 214 1 220 1 225 1 224 1 226 1 228 1 227 1 229 1 231 1 233 1 " ++
       "232 2 234 1 237 1 236 2 238 1 241 1 243 1 242 1 244 1 246 1 245 1 250 1 249 2 251 1 " ++
       "8224 1 176 2 162 1 167 1 8226 1 182 1 223 1 174 1 169 1 8482 1 180 1 168 1 8800 1 198 " ++
       "1 216 1 8734 1 177 2 8804 1 165 1 181 1 8706 1 8721 1 8719 1 960 1 8747 1 170 1 186 1 " ++
       "937 1 230 1 248 1 191 1 161 1 172 1 8730 1 402 1 8776 1 8710 1 171 1 187 1 8230 1 160 " ++
       "1 192 1 195 1 213 2 338 2 8211 2 8220 2 8216 1 247 1 9674 1 255 1 376 2 286 2 304 2 " ++
       "350 1 8225 1 183 1 8218 1 8222 1 8240 1 194 1 202 1 193 1 203 1 200 3 205 1 204 2 211 " ++
       "1 63743 1 210 2 218 1 217 1 63648 1 710 1 732 1 175 3 728 1 184 1 733 1 731 1 711"),
  .ofRuns
    ["palmos"]
    ("1 8364 1 129 1 8218 1 402 1 8222 1 8230 2 8224 1 710 1 8240 1 352 1 8249 1 338 1 9830 " ++
       "1 9827 1 9829 1 9824 2 8216 2 8220 1 8226 2 8211 1 732 1 8482 1 353 1 155 1 339 2 157 " ++
       "1 376 96 160"),
  .ofRuns
    ["646", "ansi_x3.4_1968", "ansi_x3.4_1986", "ansi_x3_4_1968", "ascii", "cp367", "cp65001",
     "csascii", "csiso2022jp", "hz", "hz_gb", "hz_gb_2312", "hzgb", "ibm367", "iso2022_jp",
     "iso2022_jp_1", "iso2022_jp_2", "iso2022_jp_2004", "iso2022_jp_3", "iso2022_jp_ext",
     "iso2022jp", "iso2022jp_1", "iso2022jp_2", "iso2022jp_2004", "iso2022jp_3", "iso2022jp_ext",
     "iso646_us", "iso_2022_jp", "iso_2022_jp_1", "iso_2022_jp_2", "iso_2022_jp_2004",
     "iso_2022_jp_3", "iso_2022_jp_ext", "iso_646.irv_1991", "iso_ir_6", "u8", "us", "us_ascii",
     "utf", "utf8", "utf8_ucs2", "utf8_ucs4", "utf_8", "utf_8_sig"]
    "128 0"]

/-- Names of sets in which a character may take several bytes. -/
def wideCharsets : List String :=
  ["932", "936", "949", "950", "big5", "big5_hkscs", "big5_tw", "big5hkscs", "chinese", "cp1361",
   "cp932", "cp936", "cp949", "cp950", "csbig5", "csiso2022kr", "csiso58gb231280", "csshiftjis",
   "euc_cn", "euc_jis2004", "euc_jis_2004", "euc_jisx0213", "euc_jp", "euc_kr", "euccn",
   "eucgb2312_cn", "eucjis2004", "eucjisx0213", "eucjp", "euckr", "gb18030", "gb18030_2000",
   "gb2312", "gb2312_1980", "gb2312_80", "gbk", "hkscs", "iso2022_kr", "iso2022kr", "iso_2022_kr",
   "iso_ir_58", "jisx0213", "johab", "korean", "ks_c_5601", "ks_c_5601_1987", "ks_x_1001",
   "ksc5601", "ksx1001", "ms1361", "ms932", "ms936", "ms949", "ms950", "ms_kanji", "mskanji",
   "s_jis", "s_jis_2004", "s_jisx0213", "shift_jis", "shift_jis_2004", "shift_jisx0213",
   "shiftjis", "shiftjis2004", "shiftjisx0213", "sjis", "sjis_2004", "sjisx0213", "u16", "u32",
   "u7", "u_jis", "uhc", "ujis", "unicode_1_1_utf_7", "unicodebigunmarked",
   "unicodelittleunmarked", "utf16", "utf32", "utf7", "utf_16", "utf_16_be", "utf_16_le",
   "utf_16be", "utf_16le", "utf_32", "utf_32_be", "utf_32_le", "utf_32be", "utf_32le", "utf_7",
   "x_mac_japanese", "x_mac_korean", "x_mac_simp_chinese", "x_mac_trad_chinese"]

/-- Names of sets in which a byte below 128 may stand for a character of another number. -/
def foreignCharsets : List String :=
  ["cp037", "cp1026", "cp1140", "cp273", "cp424", "cp500", "cp864", "cp875", "csibm037",
   "csibm1026", "csibm273", "csibm424", "csibm500", "csibm864", "ebcdic_cp_be", "ebcdic_cp_ca",
   "ebcdic_cp_ch", "ebcdic_cp_he", "ebcdic_cp_nl", "ebcdic_cp_us", "ebcdic_cp_wt", "ibm037",
   "ibm039", "ibm1026", "ibm1140", "ibm273", "ibm424", "ibm500", "ibm864", "mac_arabic",
   "mac_farsi"]

/-- A name of a character set in small letters, its words joined by underscores. -/
def charsetName (name : String) : String :=
  let lower := name.toList.map Char.toLower
  let isApart := fun c => !(c.isAlphanum || c == '.')
  let pieces := (Text.piecesBy isApart lower).filter fun piece => !piece.isEmpty
  "_".intercalate (pieces.map String.ofList)

end InputPanel.Xml
