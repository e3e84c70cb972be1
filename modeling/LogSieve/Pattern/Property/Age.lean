/-! The edition of the standard in which a character first appeared, from the oldest on. -/

namespace LogSieve.Pattern

def ageRuns : List (List String × String) := [
  (["1.1", "v11"],
    "0 1F6 4 1E 38 59 7 2F 1 A 16 46 1A 2 12 2 4 1 3 1 5 7 1 1 1 14 1 2C 1 7 3 1 1 1 1 1 1 1 1
    12 D C 1 42 1 C 1 29 9 35 2 2 2 2 3 1C 2 8 2 2 37 26 2 7 1 27 1 1 26 A 1 9 C 1B 5 5 17 1 E
    1 3 1 1 1A 5 13 D E 2 48 2 5 1 F 1 1E 2 A 207 3 1 35 2 12 2 5 3 19 10 3 1 8 2 2 2 16 1 7 1
    1 3 4 2 1 1 7 2 2 2 3 9 1 4 2 1 5 2 15 7 1 2 6 4 2 2 16 1 7 1 2 1 2 1 2 2 1 1 5 4 2 2 3 B 4
    1 1 7 F C 3 1 7 1 1 1 3 1 16 1 7 1 2 1 5 2 A 1 3 1 3 2 1 F 1 5 A 11 3 1 8 2 2 2 16 1 7 1 2
    2 4 2 8 3 2 2 3 8 2 4 2 1 3 4 B 11 2 1 6 3 3 1 4 3 2 1 1 1 2 3 2 3 3 3 8 1 3 4 5 3 3 1 4 9
    1 F C E 3 1 8 1 3 1 17 1 A 1 5 4 7 1 3 1 4 7 2 9 2 4 A 12 2 1 8 1 3 1 17 1 A 1 5 4 7 1 3 1
    4 7 2 7 1 1 2 4 A 12 2 1 8 1 3 1 17 1 10 4 6 2 3 1 4 9 1 8 2 4 A 91 3A 4 1D 25 2 1 1 2 2 1
    1 2 1 6 4 1 7 1 3 1 1 1 1 2 2 1 D 1 3 2 5 1 1 1 6 2 A 2 2 1C2 26 A 27 4 1 4 5A 5 44 5 52
    C06 9B 5 5A 6 16 2 6 2 26 2 6 2 8 1 1 1 1 1 1 1 1F 2 35 1 F 1 E 2 6 1 13 2 3 1 9 1 2F 1 17
    23 7 3 1B 11 B 25 12 1E 39 1A 30 D 5B 15 F2 E 1 1 79 85 25 1B B 15 8B 15 96 A 50 10 14 6 56
    91 4 1 4 2 1C 1 23 1 1 1 4 3 1 1 7 2 7 E 1F 3 18 1 E 841 38 7 1 1 54 4 6 2 5E 6 28 4 5E 1
    10 60 1D 3 24 1C 1C 3 32 F C 4 2F 1 77 4 63 2 1F 1A01 51A6 405A 1A2E D2 7 C 5 6 19 1 5 1 1
    1 2 1 2 1 6C 21 16D 10 40 2 36 28 C 24 4 C 15 4 A 1 13 1 4 4 3 1 1 1 87 2 1 1 5E 2 5E 3 6 2
    6 2 6 2 3 3 7 1 7 E 3"),
  (["2.0", "v20"],
    "591 11 1 D 14 1 93B 48 1 21 7 1B 4 6 1 1 1 15 3 7 1 1 EE1 1 20F 1 8B54 2BA4 1285A 2 FFFE 2
    FFFE 2 FFFE 2 FFFE 2 FFFE 2 FFFE 2 FFFE 2 FFFE 2 FFFE 2 FFFE 2 FFFE 2 FFFE 2 FFFE 20002"),
  (["2.1", "v21"],
    "20AC 1 DF4F 1"),
  (["3.0", "v30"],
    "1F6 4 1E 8 2 12 75 5 31 1 A 5 57 9 13 1 74 1 3 1 1 1 1 1 1 1 1E 1 C 1 42 1 C 1 2A 2 2 4 5C
    2 9C 1 C8 3 62 2 5 1 F 1 2A 5 1 E 1 1E 3 1B 35 31 5D1 2 1 12 3 18 1 9 1 1 2 7 3 1 4 6 1 1 1
    8 12 3 175 1 2B 1 17 3 7 1 1 3 1 F 2 1 30 22 1 5 1 2 1 7 3 4 6 1A 1A6 7 1 3F 1 1 1 4 2 7 1
    1 1 4 2 27 1 1 1 4 2 1F 1 1 1 4 2 7 1 1 1 4 2 7 1 7 1 17 1 1F 1 1 1 4 2 7 1 27 1 13 6 1C 23
    55 C 276 9 1D 3 51 8F 5D 3 A 16 F 1 A 6 58 8 2A 785 1 18 6 5F 3 32 2 55 2 48 1 67 9 10D 1
    79 1 1 1E 8A 2 1C9 8 21 1 56 2 18E 100 580 1A 1 59 C D6 1A C 3C 3 3 1 161 18 248 19B6 524A
    48D 3 12 2 10 1 C 1 3 1 1 5656 1 4DB 3"),
  (["3.1", "v31"],
    "3F4 2 F9DA 20 510 1F 1 4 C 1B B5 26 2 26 CBB2 F6 A 27 3 B4 222 55 1 47 1 2 2 1 2 2 2 4 1 C
    1 1 1 4 1 2 1 41 1 4 2 8 1 7 1 1C 1 4 1 5 1 1 3 7 1 152 4 122 4 32 2800 A6D7 5129 21E B05E3
    1 1E 60"),
  (["3.2", "v32"],
    "220 1 12E 1 13 D 68 2 1C 1 93 2 39 2 2 2 2 2 31 10 15E 2 141 1 945 2 607 D 1 7 B 17 9 14 C
    D 1 3 1 2 8D3 1 6 5 4 1 7 5 D 1 3E 2 32 7 52 F A8 C F2 E 7C 1 1E 34 11C 14 97 A 58 8 16 2
    5A C 2 A DE E 5A 1C 4 10 100 200 53B 3 57 2 8 2 5E 1 F0 10 51 F 51 F 71E2 2 10 1 C 1 3 1
    556A 3B 391 1 3 10 35 2 2C 1 EB 2"),
  (["4.0", "v40"],
    "221 1 12 3 77 2 3F 11 50 8 5 3 97 5 204 4 9 9 40 3 95 2 F 1 2D 3 1D 3 1B4 1 B8 1 43 1 1 1
    88 1 54 3 D 1 43 1 3B 1 81 8 C1 2 B1F 1 12 A 106 1D 3 C 4 C 4 1 3 2A 2 5 6B 20 300 6C 2E7 2
    E6 1 293 2 12E 1 114 2 74 8 E 2 45E E 70F 2 31 1 2B 2 4E 4 A7 4 63 2 1F 1 19C0 40 AFFD 1 49
    2 1B7 C 1 1A 1 13 1 2 1 F 2 E 22 7B 5 3 4 2D 3 9 240 1E 1 1 86 2 26 50 2 A 356 6 2 1 1 2C 1
    2 3 1 2 1 CAC0 57 16A 1 C2C3E F0"),
  (["4.1", "v41"],
    "237 B 116 5 9F 4 F6 2 AA 1 22 3 43 1 12 1 3A 6 F1 1E 20F 1 50 1 1E7 1 2F 1 3E9 2 127 2 1 1
    10A 1 3F 1 3F 1 27 1 1F 1 1F 1 1F 1 F 1 27 1 17 2 1F 1A 5E6 2A 6 1A 6 A 4 2 20 1C 2 2 34C
    58 291 2 1 7 31 5 1D 4 35 1 50 1 F 1 284 B 23C 1 65 2 12 B 5 10 10E 7 347 6 EC 2F 1 2F 21
    6B E 2D A 36 9 1 10 17 9 7 1 7 1 7 1 7 1 7 1 7 1 7 1 7 21 18 4 2 3A2 10 AE 1 6D27 16 744 17
    E9 2C 5244 6A 336 A 326 4B 215 24 4 E 62A 4 1 2 5 8 1 3 1 1B 4 3 4 9 8 9 C7A7 46 45E 2"),
  (["5.0", "v50"],
    "242 E 12B 3 151 1 2A 6 10 4 A6 1 205 3B 180 2 1 2 362 2 D 2 E0D 4C 4 2D 247 7 33 2 2EC 4 5D
    2 35 1 257 C 2CA 1 114 4 349 7 5 4 13C D 7 4 7A9F 4 5 2 11E 38 6088 1A 5 1 16E0 36F 91 63 D
    4 AEEC 12 458 2"),
  (["5.1", "v51"],
    "370 4 2 2 57 1 B7 1 8C 10 E2 5 B 5 20 5 12E 12 1F1 2 DE 1 23 1 CE 1 1D 2 6C 1 6C 1 1A 2 8 2
    14 8 BD 1 6 1 1D 2 C 6 3 7 1EB 2 61 1 3 3 4D 1 5 1 2 1 7 3 4 6 1A 40 4 2 80A 1 2D5 2B 3 C
    46 38 3 F 3 33 14B 1C B5 4 5A 6 164 1 8B 1 5E 1 35 4 514 1 15 A 3 4 108 1 1F 4 32B 5 4 29 3
    5 118 3 1 3 4 6 162 20 18 4 2 13 2FC 1 A2 14 6DD8 8 53C 12C 14 20 2 12 8 1C 83 5 2 6B 6E 5
    80 45 9 C 26 54 B 1 A0 37 9 E 2 A 2 4 53C4 3 369 C 34 2E 82 1D 3 31 64F 1A 5 1 C7E9 1 1ED6
    2C 4 64"),
  (["5.2", "v52"],
    "524 2 2DA 2E 2 F C1 1 4D 1 6 1 23 2 80 1 5D9 4 C1 4 BC 5 44 5 52 6 200 1 276 9 230 46 B4 2
    2E 1 45 3F 1 1D 2 B 6 A 6 E 222 23 10A 1 2B8 3 97 3 36 1 25E 1 2B5 2 1D 3 4 A 1 13 1 1 4 18
    57 1 3FD 5 116 1 D 2 6B 7 13F 1 412 C 6D74 8 504 30 1A0 58 138 A A6 1C 64 1D 3 4E 1 B 4 2
    80 1C 4 43 18 5 E0 2E 2 A 2BB6 17 4 31 226F 3 DD2 16 1 9 BA 2 144 20 80 36 3 1D 2 1B 5 8 80
    49 217 1F 201 42 1F3E 42F BCD1 B 5 1F 2 1 B 1 1 1 2 1 3 1 3 5 8 1 7 1 19 1 1 2 2 1 A 4 2 1
    6F 1 F 22 E 9 B4B7 1035"),
  (["6.0", "v60"],
    "526 2 F8 1 3E 1 1E0 1C 2 1 DB 2 13 1 6 2 1B 5 1FA 6 1B1 1 10 1 13 1 23D 4 49 2 382 2 861 34
    8 4 1FC 1 298 8 1C 1 32F B 2DA 1 13 1 1 4 1D 1 4 2 1C 1 23 1 1 1 4 3 9 2 34 3 18 1 E 1 E 2
    5A0 1 E 1 438 3 74A5 2 12B 2 1 2 E A 50 1 306 6 2 6 2 6 9 7 1 7 5083 10 143E 4E 4 1E 5790
    239 45C7 2 409E F 2 E 2 F 1 F 50 1 1 B 1 1 1 2 1 3 1 3 5 8 1 7 1 A 6 9 1 1 2 2 1 A 4 2 1 A
    4B 1A 1 2 2F 9 15 2 AE 21 F 6 1 46 3 14 C 25 1 5 15 11 F 3F 1 1 1 B6 1 4 3 3E 12 18 93 5 1
    10 1 3 1 1 1 1 1 1 1 3 1 6 2 4 1 1 2 4 1 C 4 B 30 46 3A 74 BFCC DE"),
  (["6.1", "v61"],
    "58F 1 74 1 29B 1 1 B 37 1B 1F1 1 3ED 2 1E7 1 5 1 2F 3 AAB 3 C 6 100 8 2B 4 AD4 1 1 1 524 2
    33 1 5 1 38 2 CA A 7190 1 6A7 8 23 1 F2 2 16 1 4D 2 2E6 17 4F37 2 F50 38 6 2 710 19 7 A 6
    35 1 E 3C 49 7 A 4A6 38 8 A 5836 45 B 2F 10 11 7E60 4 1 1B 1 2 1 1 2 1 1 A 1 4 1 1 1 1 6 1
    4 1 1 1 1 1 1 3 1 2 1 1 2 1 1 1 1 1 1 1 1 1 1 2 1 1 2 4 1 7 1 4 1 4 1 1 1 A 1 11 5 3 1 5 1
    11 34 2 278 2 3D4 4 BC 1 10 1 3 1 1 1 1 1 1 1 3 1 6 2 4 1 1 2 4 1"),
  (["6.2", "v62"],
    "20BA 1"),
  (["6.3", "v63"],
    "61C 1 1A49 4"),
  (["7.0", "v70"],
    "37F 1 1A8 8 5D 2 76 1 29B 1 B 6 4C 1 78 1 7 1 27F 1 33 1 4C 1 7F 1 E4 A 901 8 224 2 191 F
    239 2 ED F 2C5 3 336 7 305 1 44C 3 A 1A 2 20 2 22 3 C 1 8 26A 7 7855 6 F6 C B 3 2 2 45 1
    1E8 1F 7D 4 B0 30 4 2 52C1 7 35D 2 13 1 13F 1C 23 1 30 2B 185 28 8 34 B 1 90 137 9 16 A 8
    F8 3F 8 9 1D0 20 20 27 4 C 89 12 7 4 C 7 4CF 1 D0 27 56 1 C 1 6 14 B 12 1 2B 72 3B 5 A 7 3
    1 8 2 2 2 16 1 7 1 2 1 5 2 9 2 2 2 3 9 1 5 7 2 7 3 5 10B 48 8 A A6 36 2 12 36 45 B A 246 53
    C 1 1C0 39 876 2A CA C 5 1 45CB 1F 1 A 4 2 60 1E 2 6 A 46 A A 1 7 1 15 5 13 5070 6B 5 D 3 9
    7 A 2 8 2B5C C5 2 10 7E8 1 20 16 15 2 214 C 9 1 46 1 16 C 25 1 5 4 5 C 11 7 47 1 1 1 B6 1 4
    2 3F 2 4 7 1D 12 1 29 1 56 46 2 D 30 46 A 10 D 3 4 8C 55 2B C 4 38 8 A 6 28 8 1E"),
  (["8.0", "v80"],
    "8B3 2 2E 1 215 1 160 1 104 1 695 1 2 6 CC0 1 CB 2 A60 4 73DD 9 6C8 1 F0 1 22 6 144 2 262 4
    C 50 526E 2 AB0 13 1 2 5 5 BC 2 2 10 2 2E 280 33 D 33 7 6 4C9 4 E 5 A0 7 1 1 1 4 1 F 1 B 56
    1 4F 1 279 14 122 1A 3 F 4 10 C59 1 E6 C4 1EBC 247 8B97 B 617 28C F 5 1 F 187D 3 4E 2 4F 5
    24 8 FF 1 4B 5 F3 2 8B 1 23F 9 67 5 3B 1 BE5F 1682"),
  (["9.0", "v90"],
    "8B6 8 16 F 39D 1 CE 1 4 3 1 7 17 3 F07 9 172 1 5FF 4 A44 2 7969 1 116 1 58C7 2 321 24 4 24
    D42 1 1C1 5A 1 1 1 1 202 D 593 9 1 2D 1 E A 1D 3 20 2 16 1 E 5329 1 1F 17ED 13 2F3 550D 7 1
    11 2 7 1 2 1 5 8D5 4B 5 A 4 2 83B 12 8E 1 33E 1 29 1 12C 2 21 3 222 6 1 8 8 1 2 C 1 C 4 F
    26 D"),
  (["10.0", "v100"],
    "860 B 191 2 FC 6 200 1 3A 2 FBA 1 FE 4 2C5 1 33F 1 7D2 1 272 5 2E4 1 6EA7 15 6342 3 16D0 48
    8 34 2 17 1 5 25D 7 1 2 1 2C 3 1 1 2 1 9 8 A 5287 1 4020 11D 51 18C 3F64 6 46D 2 22 2 207 C
    13 1 8 8 1 2 19 1 12 D 26 6 38 17 D4C9 1D31"),
  (["11.0", "v110"],
    "560 1 27 1 66 1 20D 3 D3 1 12A 1 77 1 18D 1 7F 1 BF3 1 417 2B 2 3 EFA 3 16 19 4 F 24B 5 2E0
    1 6EBB 5 7BF 1 8 2 144 2 6134 2 12 1 2B7 28 8 A 1C6 28 8 2A 173 1 76 3 1F4 1 122 1 2BB 1 E5
    3C 261 1 2C2 6 1 2 1 25 1 2 1 6 7 A 136 19 4F47 5B 1952 5 4AEE 14 7E 7 18F8 44 47A 1 5C9 1
    DB 4 174 3 1C 5 2 4 3 1 1 4 18 B D A 7 2 24 19 60 E"),
  (["12.0", "v120"],
    "C77 1 20E 1 2 1 2 1 1 6 4 1 7 1 7 2 2 1 D 1 E3F 1 ECE 1 35 1 24F 1 796A 6 2 5 39F 2 6478 17
    468 1 258 1 2E7 8 2 2E 2 B 9F 2 53A 32 D 1 1430 9 3B0C 6 4 1 2F 9 5A 2 180E 6 2958 3 11 4
    2F98 2D 3 E 2 A 4 2 170 3A 5 1 64B 1 3B5 3D 42E 1 568 1 24 1 E5 C 121 3 2F 1 31 1 9 1 29 6
    3 2 A 6 3 8 2 3 30 54 1C 4 4 3 5 3 D 6"),
  (["12.1", "v121"],
    "32FF 1"),
  (["13.0", "v130"],
    "8BE A 28D 1 1AE 1 7C 1 D3D 2 10D6 1 2B8 3 368 5 1BF6 A 5230 D 7CA 4 2A 2 35 1 33B 4 5630 1
    CE3 2A 1 3 2 2 FE 1C 17B 1 86 2 28A 1 5 2 49E 7 2 1 2 8 1 2 1 1E 1 2 2 C 9 A 656 1 5033 1 B
    2 1B01 1E3 2A 9 6404 3 5D 3 3D 1 528 2 23 2 1B3 2 5A 1 65 1 4 2 2A 2 6 3 1D 1 A8 1 E 4 F 13
    7 7 9 3 D 7 29 93 1 37 25 A AADD 7 5922 134B"),
  (["14.0", "v140"],
    "61D 1 252 1F 1 2 6 8 15 1 12 B 369 1 20 1 7F 1 A2F 1 7 1 9 1 EF 1 2B1 E 7D 1 30 2 27B 1 2C5
    1 B6E 1 2F 1 1F3 B 719F 3 7C0 2 E 2 1 1 1 5 18 3 53CD 1 17D 10 7F 1 2E 2 770 B 1 F 1 7 1 2
    1 B 1 F 1 7 1 2 1C3 6 1 2A 1 9 7B5 1A E6 6 4C 1 5F6 1 86 7 369 10 14D0 63 3A7D 4F 1 A 4526
    4 1 7 1 2 120 4 1DDD 2E 2 17 9 74 225 2 D15 1F 371 1F 531 7 1 4 1 2 1 F EDE 3 110 1 188 1
    52 1 AE 2 2C 4 A 4 8 3 11 3 6 8 8 7 ABE7 2 1055 4"),
  (["15.0", "v150"],
    "CF3 1 1DA 1 1002E 3 33F 3 8BE A 3F6 11 1 29 3 1C 14D5 1 9 1D 7CDC 1 22 1 216A 14 C51 6 105
    3E 21 1 440 2A 11E2 1 97 3 4 5 59 1 29B 3 F 2 24 3 B 3 1 1 E 2 A 2 C 1 E 2 BC40 1 5C16 1060"),
  (["15.1", "v151"],
    "2FFC 4 1EF 1 2BA00 26E"),
  (["16.0", "v160"],
    "897 1 12B6 2 2F 1 109 2 79C 3 DBA 2 75E5 3 C 3 5DE3 34 74C 26 3 1D 8 2 132 3 37 1 483 A 1 1 2
    1 1 26 1 A 1 1 2 1 1 4 1 A 1 2 8 2 2ED 14 4DC 22 E A 360 1 1505 F9B 1D05 3A C06 3A 1F85 1 3F00
    FA 6 1B4 171C 2B 4 1 12B2 A 4 2 1C7 1 5 1 2E 1 7 1 15 1 2 1 9 1 E1 25")]

end LogSieve.Pattern
