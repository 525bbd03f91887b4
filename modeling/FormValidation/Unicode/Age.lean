import FormValidation.Unicode.Ranges

/-!
# Age

The version of the standard in which a character was first assigned, oldest first.
-/

namespace FormValidation
namespace Unicode

/-- Versions, oldest first, and the characters that each added. -/
def ages : Table := [
  (["1.1", "v11"],
    ["0 1f6 4 1e 38 59 7 2f 1 a 16 46 1a 2 12 2 4 1 3 1 5 7 1 1 1 14 1 2c 1 7 3 1 1 1 1 1 1 1",
     "1 12 d c 1 42 1 c 1 29 9 35 2 2 2 2 3 1c 2 8 2 2 37 26 2 7 1 27 1 1 26 a 1 9 c 1b 5 5 17",
     "1 e 1 3 1 1 1a 5 13 d e 2 48 2 5 1 f 1 1e 2 a 207 3 1 35 2 12 2 5 3 19 10 3 1 8 2 2 2 16",
     "1 7 1 1 3 4 2 1 1 7 2 2 2 3 9 1 4 2 1 5 2 15 7 1 2 6 4 2 2 16 1 7 1 2 1 2 1 2 2 1 1 5 4",
     "2 2 3 b 4 1 1 7 f c 3 1 7 1 1 1 3 1 16 1 7 1 2 1 5 2 a 1 3 1 3 2 1 f 1 5 a 11 3 1 8 2 2",
     "2 16 1 7 1 2 2 4 2 8 3 2 2 3 8 2 4 2 1 3 4 b 11 2 1 6 3 3 1 4 3 2 1 1 1 2 3 2 3 3 3 8 1",
     "3 4 5 3 3 1 4 9 1 f c e 3 1 8 1 3 1 17 1 a 1 5 4 7 1 3 1 4 7 2 9 2 4 a 12 2 1 8 1 3 1 17",
     "1 a 1 5 4 7 1 3 1 4 7 2 7 1 1 2 4 a 12 2 1 8 1 3 1 17 1 10 4 6 2 3 1 4 9 1 8 2 4 a 91 3a",
     "4 1d 25 2 1 1 2 2 1 1 2 1 6 4 1 7 1 3 1 1 1 1 2 2 1 d 1 3 2 5 1 1 1 6 2 a 2 2 1c2 26 a",
     "27 4 1 4 5a 5 44 5 52 c06 9b 5 5a 6 16 2 6 2 26 2 6 2 8 1 1 1 1 1 1 1 1f 2 35 1 f 1 e 2",
     "6 1 13 2 3 1 9 1 2f 1 17 23 7 3 1b 11 b 25 12 1e 39 1a 30 d 5b 15 f2 e 1 1 79 85 25 1b b",
     "15 8b 15 96 a 50 10 14 6 56 91 4 1 4 2 1c 1 23 1 1 1 4 3 1 1 7 2 7 e 1f 3 18 1 e 841 38",
     "7 1 1 54 4 6 2 5e 6 28 4 5e 1 10 60 1d 3 24 1c 1c 3 32 f c 4 2f 1 77 4 63 2 1f 1a01 51a6",
     "405a 1a2e d2 7 c 5 6 19 1 5 1 1 1 2 1 2 1 6c 21 16d 10 40 2 36 28 c 24 4 c 15 4 a 1 13 1",
     "4 4 3 1 1 1 87 2 1 1 5e 2 5e 3 6 2 6 2 6 2 3 3 7 1 7 e 3"]),
  (["2.0", "v20"],
    ["591 11 1 d 14 1 93b 48 1 21 7 1b 4 6 1 1 1 15 3 7 1 1 ee1 1 20f 1 8b54 2ba4 5c 800 11ffe",
     "2 fffe 2 fffe 2 fffe 2 fffe 2 fffe 2 fffe 2 fffe 2 fffe 2 fffe 2 fffe 2 fffe 2 fffe 2",
     "fffe 20002"]),
  (["2.1", "v21"],
    ["20ac 1 df4f 1"]),
  (["3.0", "v30"],
    ["1f6 4 1e 8 2 12 75 5 31 1 a 5 57 9 13 1 74 1 3 1 1 1 1 1 1 1 1e 1 c 1 42 1 c 1 2a 2 2 4",
     "5c 2 9c 1 c8 3 62 2 5 1 f 1 2a 5 1 e 1 1e 3 1b 35 31 5d1 2 1 12 3 18 1 9 1 1 2 7 3 1 4 6",
     "1 1 1 8 12 3 175 1 2b 1 17 3 7 1 1 3 1 f 2 1 30 22 1 5 1 2 1 7 3 4 6 1a 1a6 7 1 3f 1 1 1",
     "4 2 7 1 1 1 4 2 27 1 1 1 4 2 1f 1 1 1 4 2 7 1 1 1 4 2 7 1 7 1 17 1 1f 1 1 1 4 2 7 1 27 1",
     "13 6 1c 23 55 c 276 9 1d 3 51 8f 5d 3 a 16 f 1 a 6 58 8 2a 785 1 18 6 5f 3 32 2 55 2 48",
     "1 67 9 10d 1 79 1 1 1e 8a 2 1c9 8 21 1 56 2 18e 100 580 1a 1 59 c d6 1a c 3c 3 3 1 161",
     "18 248 19b6 524a 48d 3 12 2 10 1 c 1 3 1 1 5656 1 4db 3"]),
  (["3.1", "v31"],
    ["3f4 2 f9da 20 510 1f 1 4 c 1b b5 26 2 26 cbb2 f6 a 27 3 b4 222 55 1 47 1 2 2 1 2 2 2 4 1",
     "c 1 1 1 4 1 2 1 41 1 4 2 8 1 7 1 1c 1 4 1 5 1 1 3 7 1 152 4 122 4 32 2800 a6d7 5129 21e",
     "b05e3 1 1e 60"]),
  (["3.2", "v32"],
    ["220 1 12e 1 13 d 68 2 1c 1 93 2 39 2 2 2 2 2 31 10 15e 2 141 1 945 2 607 d 1 7 b 17 9 14",
     "c d 1 3 1 2 8d3 1 6 5 4 1 7 5 d 1 3e 2 32 7 52 f a8 c f2 e 7c 1 1e 34 11c 14 97 a 58 8",
     "16 2 5a c 2 a de e 5a 1c 4 10 100 200 53b 3 57 2 8 2 5e 1 f0 10 51 f 51 f 71e2 2 10 1 c",
     "1 3 1 556a 3b 391 1 3 10 35 2 2c 1 eb 2"]),
  (["4.0", "v40"],
    ["221 1 12 3 77 2 3f 11 50 8 5 3 97 5 204 4 9 9 40 3 95 2 f 1 2d 3 1d 3 1b4 1 b8 1 43 1 1",
     "1 88 1 54 3 d 1 43 1 3b 1 81 8 c1 2 b1f 1 12 a 106 1d 3 c 4 c 4 1 3 2a 2 5 6b 20 300 6c",
     "2e7 2 e6 1 293 2 12e 1 114 2 74 8 e 2 45e e 70f 2 31 1 2b 2 4e 4 a7 4 63 2 1f 1 19c0 40",
     "affd 1 49 2 1b7 c 1 1a 1 13 1 2 1 f 2 e 22 7b 5 3 4 2d 3 9 240 1e 1 1 86 2 26 50 2 a 356",
     "6 2 1 1 2c 1 2 3 1 2 1 cac0 57 16a 1 c2c3e f0"]),
  (["4.1", "v41"],
    ["237 b 116 5 9f 4 f6 2 aa 1 22 3 43 1 12 1 3a 6 f1 1e 20f 1 50 1 1e7 1 2f 1 3e9 2 127 2 1",
     "1 10a 1 3f 1 3f 1 27 1 1f 1 1f 1 1f 1 f 1 27 1 17 2 1f 1a 5e6 2a 6 1a 6 a 4 2 20 1c 2 2",
     "34c 58 291 2 1 7 31 5 1d 4 35 1 50 1 f 1 284 b 23c 1 65 2 12 b 5 10 10e 7 347 6 ec 2f 1",
     "2f 21 6b e 2d a 36 9 1 10 17 9 7 1 7 1 7 1 7 1 7 1 7 1 7 1 7 21 18 4 2 3a2 10 ae 1 6d27",
     "16 744 17 e9 2c 5244 6a 336 a 326 4b 215 24 4 e 62a 4 1 2 5 8 1 3 1 1b 4 3 4 9 8 9 c7a7",
     "46 45e 2"]),
  (["5.0", "v50"],
    ["242 e 12b 3 151 1 2a 6 10 4 a6 1 205 3b 180 2 1 2 362 2 d 2 e0d 4c 4 2d 247 7 33 2 2ec 4",
     "5d 2 35 1 257 c 2ca 1 114 4 349 7 5 4 13c d 7 4 7a9f 4 5 2 11e 38 6088 1a 5 1 16e0 36f",
     "91 63 d 4 aeec 12 458 2"]),
  (["5.1", "v51"],
    ["370 4 2 2 57 1 b7 1 8c 10 e2 5 b 5 20 5 12e 12 1f1 2 de 1 23 1 ce 1 1d 2 6c 1 6c 1 1a 2",
     "8 2 14 8 bd 1 6 1 1d 2 c 6 3 7 1eb 2 61 1 3 3 4d 1 5 1 2 1 7 3 4 6 1a 40 4 2 80a 1 2d5",
     "2b 3 c 46 38 3 f 3 33 14b 1c b5 4 5a 6 164 1 8b 1 5e 1 35 4 514 1 15 a 3 4 108 1 1f 4",
     "32b 5 4 29 3 5 118 3 1 3 4 6 162 20 18 4 2 13 2fc 1 a2 14 6dd8 8 53c 12c 14 20 2 12 8 1c",
     "83 5 2 6b 6e 5 80 45 9 c 26 54 b 1 a0 37 9 e 2 a 2 4 53c4 3 369 c 34 2e 82 1d 3 31 64f",
     "1a 5 1 c7e9 1 1ed6 2c 4 64"]),
  (["5.2", "v52"],
    ["524 2 2da 2e 2 f c1 1 4d 1 6 1 23 2 80 1 5d9 4 c1 4 bc 5 44 5 52 6 200 1 276 9 230 46 b4",
     "2 2e 1 45 3f 1 1d 2 b 6 a 6 e 222 23 10a 1 2b8 3 97 3 36 1 25e 1 2b5 2 1d 3 4 a 1 13 1 1",
     "4 18 57 1 3fd 5 116 1 d 2 6b 7 13f 1 412 c 6d74 8 504 30 1a0 58 138 a a6 1c 64 1d 3 4e 1",
     "b 4 2 80 1c 4 43 18 5 e0 2e 2 a 2bb6 17 4 31 226f 3 dd2 16 1 9 ba 2 144 20 80 36 3 1d 2",
     "1b 5 8 80 49 217 1f 201 42 1f3e 42f bcd1 b 5 1f 2 1 b 1 1 1 2 1 3 1 3 5 8 1 7 1 19 1 1 2",
     "2 1 a 4 2 1 6f 1 f 22 e 9 b4b7 1035"]),
  (["6.0", "v60"],
    ["526 2 f8 1 3e 1 1e0 1c 2 1 db 2 13 1 6 2 1b 5 1fa 6 1b1 1 10 1 13 1 23d 4 49 2 382 2 861",
     "34 8 4 1fc 1 298 8 1c 1 32f b 2da 1 13 1 1 4 1d 1 4 2 1c 1 23 1 1 1 4 3 9 2 34 3 18 1 e",
     "1 e 2 5a0 1 e 1 438 3 74a5 2 12b 2 1 2 e a 50 1 306 6 2 6 2 6 9 7 1 7 5083 10 143e 4e 4",
     "1e 5790 239 45c7 2 409e f 2 e 2 f 1 f 50 1 1 b 1 1 1 2 1 3 1 3 5 8 1 7 1 a 6 9 1 1 2 2 1",
     "a 4 2 1 a 4b 1a 1 2 2f 9 15 2 ae 21 f 6 1 46 3 14 c 25 1 5 15 11 f 3f 1 1 1 b6 1 4 3 3e",
     "12 18 93 5 1 10 1 3 1 1 1 1 1 1 1 3 1 6 2 4 1 1 2 4 1 c 4 b 30 46 3a 74 bfcc de"]),
  (["6.1", "v61"],
    ["58f 1 74 1 29b 1 1 b 37 1b 1f1 1 3ed 2 1e7 1 5 1 2f 3 aab 3 c 6 100 8 2b 4 ad4 1 1 1 524",
     "2 33 1 5 1 38 2 ca a 7190 1 6a7 8 23 1 f2 2 16 1 4d 2 2e6 17 4f37 2 f50 38 6 2 710 19 7",
     "a 6 35 1 e 3c 49 7 a 4a6 38 8 a 5836 45 b 2f 10 11 7e60 4 1 1b 1 2 1 1 2 1 1 a 1 4 1 1 1",
     "1 6 1 4 1 1 1 1 1 1 3 1 2 1 1 2 1 1 1 1 1 1 1 1 1 1 2 1 1 2 4 1 7 1 4 1 4 1 1 1 a 1 11 5",
     "3 1 5 1 11 34 2 278 2 3d4 4 bc 1 10 1 3 1 1 1 1 1 1 1 3 1 6 2 4 1 1 2 4 1"]),
  (["6.2", "v62"],
    ["20ba 1"]),
  (["6.3", "v63"],
    ["61c 1 1a49 4"]),
  (["7.0", "v70"],
    ["37f 1 1a8 8 5d 2 76 1 29b 1 b 6 4c 1 78 1 7 1 27f 1 33 1 4c 1 7f 1 e4 a 901 8 224 2 191",
     "f 239 2 ed f 2c5 3 336 7 305 1 44c 3 a 1a 2 20 2 22 3 c 1 8 26a 7 7855 6 f6 c b 3 2 2 45",
     "1 1e8 1f 7d 4 b0 30 4 2 52c1 7 35d 2 13 1 13f 1c 23 1 30 2b 185 28 8 34 b 1 90 137 9 16",
     "a 8 f8 3f 8 9 1d0 20 20 27 4 c 89 12 7 4 c 7 4cf 1 d0 27 56 1 c 1 6 14 b 12 1 2b 72 3b 5",
     "a 7 3 1 8 2 2 2 16 1 7 1 2 1 5 2 9 2 2 2 3 9 1 5 7 2 7 3 5 10b 48 8 a a6 36 2 12 36 45 b",
     "a 246 53 c 1 1c0 39 876 2a ca c 5 1 45cb 1f 1 a 4 2 60 1e 2 6 a 46 a a 1 7 1 15 5 13",
     "5070 6b 5 d 3 9 7 a 2 8 2b5c c5 2 10 7e8 1 20 16 15 2 214 c 9 1 46 1 16 c 25 1 5 4 5 c",
     "11 7 47 1 1 1 b6 1 4 2 3f 2 4 7 1d 12 1 29 1 56 46 2 d 30 46 a 10 d 3 4 8c 55 2b c 4 38",
     "8 a 6 28 8 1e"]),
  (["8.0", "v80"],
    ["8b3 2 2e 1 215 1 160 1 104 1 695 1 2 6 cc0 1 cb 2 a60 4 73dd 9 6c8 1 f0 1 22 6 144 2 262",
     "4 c 50 526e 2 ab0 13 1 2 5 5 bc 2 2 10 2 2e 280 33 d 33 7 6 4c9 4 e 5 a0 7 1 1 1 4 1 f 1",
     "b 56 1 4f 1 279 14 122 1a 3 f 4 10 c59 1 e6 c4 1ebc 247 8b97 b 617 28c f 5 1 f 187d 3 4e",
     "2 4f 5 24 8 ff 1 4b 5 f3 2 8b 1 23f 9 67 5 3b 1 be5f 1682"]),
  (["9.0", "v90"],
    ["8b6 8 16 f 39d 1 ce 1 4 3 1 7 17 3 f07 9 172 1 5ff 4 a44 2 7969 1 116 1 58c7 2 321 24 4",
     "24 d42 1 1c1 5a 1 1 1 1 202 d 593 9 1 2d 1 e a 1d 3 20 2 16 1 e 5329 1 1f 17ed 13 2f3",
     "550d 7 1 11 2 7 1 2 1 5 8d5 4b 5 a 4 2 83b 12 8e 1 33e 1 29 1 12c 2 21 3 222 6 1 8 8 1 2",
     "c 1 c 4 f 26 d"]),
  (["10.0", "v100"],
    ["860 b 191 2 fc 6 200 1 3a 2 fba 1 fe 4 2c5 1 33f 1 7d2 1 272 5 2e4 1 6ea7 15 6342 3 16d0",
     "48 8 34 2 17 1 5 25d 7 1 2 1 2c 3 1 1 2 1 9 8 a 5287 1 4020 11d 51 18c 3f64 6 46d 2 22 2",
     "207 c 13 1 8 8 1 2 19 1 12 d 26 6 38 17 d4c9 1d31"]),
  (["11.0", "v110"],
    ["560 1 27 1 66 1 20d 3 d3 1 12a 1 77 1 18d 1 7f 1 bf3 1 417 2b 2 3 efa 3 16 19 4 f 24b 5",
     "2e0 1 6ebb 5 7bf 1 8 2 144 2 6134 2 12 1 2b7 28 8 a 1c6 28 8 2a 173 1 76 3 1f4 1 122 1",
     "2bb 1 e5 3c 261 1 2c2 6 1 2 1 25 1 2 1 6 7 a 136 19 4f47 5b 1952 5 4aee 14 7e 7 18f8 44",
     "47a 1 5c9 1 db 4 174 3 1c 5 2 4 3 1 1 4 18 b d a 7 2 24 19 60 e"]),
  (["12.0", "v120"],
    ["c77 1 20e 1 2 1 2 1 1 6 4 1 7 1 7 2 2 1 d 1 e3f 1 ece 1 35 1 24f 1 796a 6 2 5 39f 2 6478",
     "17 468 1 258 1 2e7 8 2 2e 2 b 9f 2 53a 32 d 1 1430 9 3b0c 6 4 1 2f 9 5a 2 180e 6 2958 3",
     "11 4 2f98 2d 3 e 2 a 4 2 170 3a 5 1 64b 1 3b5 3d 42e 1 568 1 24 1 e5 c 121 3 2f 1 31 1 9",
     "1 29 6 3 2 a 6 3 8 2 3 30 54 1c 4 4 3 5 3 d 6"]),
  (["12.1", "v121"],
    ["32ff 1"]),
  (["13.0", "v130"],
    ["8be a 28d 1 1ae 1 7c 1 d3d 2 10d6 1 2b8 3 368 5 1bf6 a 5230 d 7ca 4 2a 2 35 1 33b 4 5630",
     "1 ce3 2a 1 3 2 2 fe 1c 17b 1 86 2 28a 1 5 2 49e 7 2 1 2 8 1 2 1 1e 1 2 2 c 9 a 656 1",
     "5033 1 b 2 1b01 1e3 2a 9 6404 3 5d 3 3d 1 528 2 23 2 1b3 2 5a 1 65 1 4 2 2a 2 6 3 1d 1",
     "a8 1 e 4 f 13 7 7 9 3 d 7 29 93 1 37 25 a aadd 7 5922 134b"]),
  (["14.0", "v140"],
    ["61d 1 252 1f 1 2 6 8 15 1 12 b 369 1 20 1 7f 1 a2f 1 7 1 9 1 ef 1 2b1 e 7d 1 30 2 27b 1",
     "2c5 1 b6e 1 2f 1 1f3 b 719f 3 7c0 2 e 2 1 1 1 5 18 3 53cd 1 17d 10 7f 1 2e 2 770 b 1 f 1",
     "7 1 2 1 b 1 f 1 7 1 2 1c3 6 1 2a 1 9 7b5 1a e6 6 4c 1 5f6 1 86 7 369 10 14d0 63 3a7d 4f",
     "1 a 4526 4 1 7 1 2 120 4 1ddd 2e 2 17 9 74 225 2 d15 1f 371 1f 531 7 1 4 1 2 1 f ede 3",
     "110 1 188 1 52 1 ae 2 2c 4 a 4 8 3 11 3 6 8 8 7 abe7 2 1055 4"]),
  (["15.0", "v150"],
    ["cf3 1 1da 1 1002e 3 33f 3 8be a 3f6 11 1 29 3 1c 14d5 1 9 1d 7cdc 1 22 1 216a 14 c51 6",
     "105 3e 21 1 440 2a 11e2 1 97 3 4 5 59 1 29b 3 f 2 24 3 b 3 1 1 e 2 a 2 c 1 e 2 bc40 1",
     "5c16 1060"])]

end Unicode
end FormValidation
