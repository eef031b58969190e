/-!
# Folio.Charset.SingleByteTable

The encodings whose characters have one byte.
-/

namespace Folio.Charset

/-- The names of the encodings, each with the characters of the bytes from 128
on, hexadecimal: `a` a character, `a+n` a run of `n` characters from `a` on,
`-n` a gap of `n` bytes. -/
def singleByteTable : List (String × String) :=
  [("IBM866",
      "410+30 2591+3 2502 2524 2561+2 2556 2555 2563 2551 2557 255d 255c 255b 2510 2514 2534 252c
       251c 2500 253c 255e+2 255a 2554 2569 2566 2560 2550 256c 2567+2 2564+2 2559 2558 2552+2
       256b 256a 2518 250c 2588 2584 258c 2590 2580 440+10 401 451 404 454 407 457 40e 45e b0 2219
       b7 221a 2116 a4 25a0 a0"),
    ("ISO-8859-2",
      "80+21 104 2d8 141 a4 13d 15a a7+2 160 15e 164 179 ad 17d 17b b0 105 2db 142 b4 13e 15b 2c7
       b8 161 15f 165 17a 2dd 17e 17c 154 c1+2 102 c4 139 106 c7 10c c9 118 cb 11a cd+2 10e 110
       143 147 d3+2 150 d6+2 158 16e da 170 dc+2 162 df 155 e1+2 103 e4 13a 107 e7 10d e9 119 eb
       11b ed+2 10f 111 144 148 f3+2 151 f6+2 159 16f fa 171 fc+2 163 2d9"),
    ("ISO-8859-3",
      "80+21 126 2d8 a3+2 -1 124 a7+2 130 15e 11e 134 ad -1 17b b0 127 b2+4 125 b7+2 131 15f 11f
       135 bd -1 17c c0+3 -1 c4 10a 108 c7+9 -1 d1+4 120 d6+2 11c d9+4 16c 15c df+4 -1 e4 10b 109
       e7+9 -1 f1+4 121 f6+2 11d f9+4 16d 15d 2d9"),
    ("ISO-8859-4",
      "80+21 104 138 156 a4 128 13b a7+2 160 112 122 166 ad 17d af+2 105 2db 157 b4 129 13c 2c7 b8
       161 113 123 167 14a 17e 14b 100 c1+6 12e 10c c9 118 cb 116 cd+2 12a 110 145 14c 136 d4+5
       172 da+3 168 16a df 101 e1+6 12f 10d e9 119 eb 117 ed+2 12b 111 146 14d 137 f4+5 173 fa+3
       169 16b 2d9"),
    ("ISO-8859-5",
      "80+21 401+c ad 40e+42 2116 451+c a7 45e+2"),
    ("ISO-8859-6",
      "80+21 -3 a4 -7 60c ad -d 61b -3 61f -1 621+1a -5 640+13"),
    ("ISO-8859-7",
      "80+21 2018+2 a3 20ac 20af a6+4 37a ab+3 -1 2015 b0+4 384+3 b7 388+3 bb 38c bd 38e+14 -1
       3a3+2c"),
    ("ISO-8859-8",
      "80+21 -1 a2+8 d7 ab+f f7 bb+4 -20 2017 5d0+1b -2 200e+2"),
    ("ISO-8859-10",
      "80+21 104 112 122 12a 128 136 a7 13b 110 160 166 17d ad 16a 14a b0 105 113 123 12b 129 137
       b7 13c 111 161 167 17e 2015 16b 14b 100 c1+6 12e 10c c9 118 cb 116 cd+4 145 14c d3+4 168 d8
       172 da+6 101 e1+6 12f 10d e9 119 eb 117 ed+4 146 14d f3+4 169 f8 173 fa+5 138"),
    ("ISO-8859-13",
      "80+21 201d a2+3 201e a6+2 d8 a9 156 ab+4 c6 b0+4 201c b5+3 f8 b9 157 bb+4 e6 104 12e 100
       106 c4+2 118 112 10c c9 179 116 122 136 12a 13b 160 143 145 d3 14c d5+3 172 141 15a 16a dc
       17b 17d df 105 12f 101 107 e4+2 119 113 10d e9 17a 117 123 137 12b 13c 161 144 146 f3 14d
       f5+3 173 142 15b 16b fc 17c 17e 2019"),
    ("ISO-8859-14",
      "80+21 1e02+2 a3 10a+2 1e0a a7 1e80 a9 1e82 1e0b 1ef2 ad+2 178 1e1e+2 120+2 1e40+2 b6 1e56
       1e81 1e57 1e83 1e60 1ef3 1e84+2 1e61 c0+10 174 d1+6 1e6a d8+6 176 df+11 175 f1+6 1e6b f8+6
       177 ff"),
    ("ISO-8859-15",
      "80+24 20ac a5 160 a7 161 a9+b 17d b5+3 17e b9+3 152+2 178 bf+41"),
    ("ISO-8859-16",
      "80+21 104+2 141 20ac 201e 160 a7 161 a9 218 ab 179 ad 17a+2 b0+2 10c 142 17d 201d b6+2 17e
       10d 219 bb 152+2 178 17c c0+3 102 c4 106 c6+a 110 143 d2+3 150 d6 15a 170 d9+4 118 21a df+4
       103 e4 107 e6+a 111 144 f2+3 151 f6 15b 171 f9+4 119 21b ff"),
    ("KOI8-R",
      "2500 2502 250c 2510 2514 2518 251c 2524 252c 2534 253c 2580 2584 2588 258c 2590+4 2320 25a0
       2219+2 2248 2264+2 a0 2321 b0 b2 b7 f7 2550+3 451 2553+f 401 2562+b a9 44e 430+2 446 434+2
       444 433 445 438+8 44f 440+4 436 432 44c 44b 437 448 44d 449 447 44a 42e 410+2 426 414+2 424
       413 425 418+8 42f 420+4 416 412 42c 42b 417 428 42d 429 427 42a"),
    ("KOI8-U",
      "2500 2502 250c 2510 2514 2518 251c 2524 252c 2534 253c 2580 2584 2588 258c 2590+4 2320 25a0
       2219+2 2248 2264+2 a0 2321 b0 b2 b7 f7 2550+3 451 454 2554 456+2 2557+5 491 45e 255e+4 401
       404 2563 406+2 2566+5 490 40e a9 44e 430+2 446 434+2 444 433 445 438+8 44f 440+4 436 432
       44c 44b 437 448 44d 449 447 44a 42e 410+2 426 414+2 424 413 425 418+8 42f 420+4 416 412 42c
       42b 417 428 42d 429 427 42a"),
    ("macintosh",
      "c4+2 c7 c9 d1 d6 dc e1 e0 e2 e4 e3 e5 e7 e9 e8 ea+2 ed ec ee+2 f1 f3 f2 f4 f6 f5 fa f9 fb+2
       2020 b0 a2+2 a7 2022 b6 df ae a9 2122 b4 a8 2260 c6 d8 221e b1 2264+2 a5 b5 2202 2211 220f
       3c0 222b aa ba 3a9 e6 f8 bf a1 ac 221a 192 2248 2206 ab bb 2026 a0 c0 c3 d5 152+2 2013+2
       201c+2 2018+2 f7 25ca ff 178 2044 20ac 2039+2 fb01+2 2021 b7 201a 201e 2030 c2 ca c1 cb c8
       cd+3 cc d3+2 f8ff d2 da+2 d9 131 2c6 2dc af 2d8+3 b8 2dd 2db 2c7"),
    ("windows-874",
      "20ac 81+4 2026 86+b 2018+2 201c+2 2022 2013+2 98+9 e01+3a -4 e3f+1d"),
    ("windows-1250",
      "20ac 81 201a 83 201e 2026 2020+2 88 2030 160 2039 15a 164 17d 179 90 2018+2 201c+2 2022
       2013+2 98 2122 161 203a 15b 165 17e 17a a0 2c7 2d8 141 a4 104 a6+4 15e ab+4 17b b0+2 2db
       142 b4+5 105 15f bb 13d 2dd 13e 17c 154 c1+2 102 c4 139 106 c7 10c c9 118 cb 11a cd+2 10e
       110 143 147 d3+2 150 d6+2 158 16e da 170 dc+2 162 df 155 e1+2 103 e4 13a 107 e7 10d e9 119
       eb 11b ed+2 10f 111 144 148 f3+2 151 f6+2 159 16f fa 171 fc+2 163 2d9"),
    ("windows-1251",
      "402+2 201a 453 201e 2026 2020+2 20ac 2030 409 2039 40a 40c 40b 40f 452 2018+2 201c+2 2022
       2013+2 98 2122 459 203a 45a 45c 45b 45f a0 40e 45e 408 a4 490 a6+2 401 a9 404 ab+4 407 b0+2
       406 456 491 b5+3 451 2116 454 bb 458 405 455 457 410+40"),
    ("windows-1252",
      "20ac 81 201a 192 201e 2026 2020+2 2c6 2030 160 2039 152 8d 17d 8f+2 2018+2 201c+2 2022
       2013+2 2dc 2122 161 203a 153 9d 17e 178 a0+60"),
    ("windows-1253",
      "20ac 81 201a 192 201e 2026 2020+2 88 2030 8a 2039 8c+5 2018+2 201c+2 2022 2013+2 98 2122 9a
       203a 9c+5 385+2 a3+7 -1 ab+4 2015 b0+4 384 b5+3 388+3 bb 38c bd 38e+14 -1 3a3+2c"),
    ("windows-1254",
      "20ac 81 201a 192 201e 2026 2020+2 2c6 2030 160 2039 152 8d+4 2018+2 201c+2 2022 2013+2 2dc
       2122 161 203a 153 9d+2 178 a0+30 11e d1+c 130 15e df+11 11f f1+c 131 15f ff"),
    ("windows-1255",
      "20ac 81 201a 192 201e 2026 2020+2 2c6 2030 8a 2039 8c+5 2018+2 201c+2 2022 2013+2 2dc 2122
       9a 203a 9c+8 20aa a5+5 d7 ab+f f7 bb+5 5b0+14 5f0+5 -7 5d0+1b -2 200e+2"),
    ("windows-1256",
      "20ac 67e 201a 192 201e 2026 2020+2 2c6 2030 679 2039 152 686 698 688 6af 2018+2 201c+2 2022
       2013+2 6a9 2122 691 203a 153 200c+2 6ba a0 60c a2+8 6be ab+f 61b bb+4 61f 6c1 621+16 d7
       637+4 640+4 e0 644 e2 645+4 e7+5 649+2 ee+2 64b+4 f4 64f+2 f7 651 f9 652 fb+2 200e+2 6d2"),
    ("windows-1257",
      "20ac 81 201a 83 201e 2026 2020+2 88 2030 8a 2039 8c a8 2c7 b8 90 2018+2 201c+2 2022 2013+2
       98 2122 9a 203a 9c af 2db 9f+2 -1 a2+3 -1 a6+2 d8 a9 156 ab+4 c6 b0+8 f8 b9 157 bb+4 e6 104
       12e 100 106 c4+2 118 112 10c c9 179 116 122 136 12a 13b 160 143 145 d3 14c d5+3 172 141 15a
       16a dc 17b 17d df 105 12f 101 107 e4+2 119 113 10d e9 17a 117 123 137 12b 13c 161 144 146
       f3 14d f5+3 173 142 15b 16b fc 17c 17e 2d9"),
    ("windows-1258",
      "20ac 81 201a 192 201e 2026 2020+2 2c6 2030 8a 2039 152 8d+4 2018+2 201c+2 2022 2013+2 2dc
       2122 9a 203a 153 9d+2 178 a0+23 102 c4+8 300 cd+3 110 d1 309 d3+2 1a0 d6+7 1af 303 df+4 103
       e4+8 301 ed+3 111 f1 323 f3+2 1a1 f6+7 1b0 20ab ff"),
    ("x-mac-cyrillic",
      "410+20 2020 b0 490 a3 a7 2022 b6 406 ae a9 2122 402 452 2260 403 453 221e b1 2264+2 456 b5
       491 408 404 454 407 457 409 459 40a 45a 458 405 ac 221a 192 2248 2206 ab bb 2026 a0 40b 45b
       40c 45c 455 2013+2 201c+2 2018+2 f7 201e 40e 45e 40f 45f 2116 401 451 44f 430+1f 20ac")]

end Folio.Charset
