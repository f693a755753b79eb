import HttpExchange.Text.Composition

/-!
# The mapping of host names

Names of hosts are compared in one form only. Capital letters become small,
variants of a character become the character, some characters vanish, and the
result is composed. A name with a character that no host may have is refused.

## Main definitions

- `Host.mapped?`: the form in which a name is compared.
-/

namespace HttpExchange.Host

/-- The characters that a name may be written with. -/
def admitted : CharTable Nat := .ofRanges [
  "0 7f 21 2d7 3 5 5 6 2 0 2 13 2 18c 2 25 3 31 3 2 2 36 9 1a 5 5 12 15 2 bf 2 2f 3 3a 3 64 f",
  "3a 3 30 3 e 2 1b 3 0 2 a 6 1f 8 4a 2 a0 2 7 3 1 3 15 2 6 2 0 4 3 3 8 3 1 3 3 9 0 5 1 2 4 3",
  "18 3 2 2 5 5 1 3 15 2 6 2 1 2 1 2 1 3 0 2 4 5 1 3 2 4 0 8 3 2 0 8 10 b 2 2 8 2 2 2 15 2 6 2",
  "1 2 4 3 9 2 2 2 2 3 0 10 3 3 b 8 6 2 2 2 7 3 1 3 15 2 6 2 1 2 4 3 8 3 1 3 2 8 2 5 1 2 4 3 11",
  "b 1 2 5 4 2 2 3 4 1 2 0 2 1 4 1 4 2 4 b 5 4 4 2 2 3 3 0 7 0 f 14 6 c 2 2 2 16 2 f 3 8 2 2 2",
  "3 8 1 2 2 2 1 3 3 3 9 8 15 2 2 2 16 2 9 2 4 3 8 2 2 2 3 8 1 6 2 2 3 3 9 2 2 d c 2 2 2 32 2 2",
  "2 5 5 f 3 19 2 2 2 11 4 17 2 8 2 0 3 6 4 0 5 5 2 0 2 7 7 9 3 2 d 39 5 1c 26 1 2 0 2 4 2 17 2",
  "0 2 16 3 4 2 0 2 6 2 9 3 3 21 47 2 23 5 26 2 23 2 e 2 c 26 c5 2 0 6 0 3 178 2 3 3 6 2 0 2 3",
  "3 28 2 3 3 20 2 3 3 6 2 0 2 3 3 e 2 38 2 3 3 42 3 1f 4 19 7 55 3 5 3 27f 2 1b 4 58 8 15 a 17",
  "a 13 d c 2 2 2 1 d 5d 3 9 7 9 7 19 7 58 8 2a 6 45 b 1e 2 b 5 b 5 0 4 29 3 4 c 2b 5 19 7 a 4",
  "3d 3 40 2 1c 3 a 7 9 7 d 3 2d 3 b 15 4c 2 a5 9 3b 4 e 4 3d 6 2a 3 a 9 2a 6 215 3 5 3 25 3 5",
  "3 7 2 0 2 0 2 0 2 1e 3 34 2 e 2 d 3 5 2 12 3 2 2 8 2 d 3 13 4 0 8 35 6 7 3 1a 2 c 4 21 f 20",
  "10 8b 5 299 17 a 16 27 15 6d7 3 17d 6 2c 2 0 6 0 3 37 8 1 f 17 a 6 2 6 2 6 2 6 2 6 2 6 2 6 2",
  "6 2 7d 23 19 2 58 d d5 2b 3f 2 55 3 66 6 2a 2 5d 2 55 b 2e 2 1a1 2 3 2 f 2 70b3 4 36 a 15b",
  "15 b7 9 dc 15 3b 4 9 7 37 9 45 9 b 7 73 c 1d 4 4d 2 a 5 20 2 36 a d 3 9 3 66 19 1b b 5 3 5 3",
  "5 a 6 2 6 2 3b 5 7d 3 9 7 2ba3 d 16 5 30 2105 16d 3 69 27 6 d 4 6 19 2 4 2 0 2 1 2 1 2 289",
  "21 21 2 5 8 f 2 20 3 12 2 3 5 4 2 86 3 0 2 bd 4 5 3 5 3 5 3 2 4 6 2 6 12 b 2 19 2 12 2 1 2 e",
  "3 d 23 7a 6 2 5 2c 4 57 2 c 4 0 30 2d 83 1c 4 30 10 1b 5 23 a 1d 6 2a 6 1d 2 24 5 d 2b 9d 3",
  "9 7 23 5 23 5 27 9 33 c b 2 e 2 6 2 1 2 a 2 e 2 6 2 1 4 33 d 136 a 15 b 7 19 5 2 29 2 8 46 5",
  "3 0 2 2b 2 1 4 0 3 16 2 47 9 8 31 12 2 1 6 20 4 1a 6 1a 27 37 5 13 3 31 2 1 6 7 2 2 2 1c 3 2",
  "5 9 8 8 8 3f 21 26 5 b a 35 4 1c 3 1a 6 19 8 3 d 6 51 48 38 32 e 32 8 2d 9 9 7 25 4 1c 9 1",
  "d1 1e 2 29 2 2 3 1 11 5 9 8 22 2d 9 29 17 19 27 1b 15 16 a 4d 5 23 a 3d 2 4 e 18 8 9 7 34 2",
  "11 9 26 a 5f 2 13 c 11 2 2e 3f 6 2 0 2 3 2 e 2 a 7 3a 6 9 7 3 2 7 3 1 3 15 2 6 2 1 2 4 2 9 3",
  "1 3 2 3 0 7 0 6 6 3 6 4 4 c 9 2 0 3 0 2 25 2 9 2 0 3 0 2 3 2 9 2 1 9 1 1e 5b 2 4 1f 47 9 9",
  "a7 35 3 25 23 44 c 9 7 c 14 39 7 9 7 13 1d 1a 3 e 5 16 ba 3b 65 52 d 7 3 0 3 7 2 1 2 1d 2 1",
  "3 b a 9 47 7 3 2d 3 a 1c 47 9 52 e 48 8 9 57 7 59 21 f 9 7 8 2 2c 2 d b 1c 4 1f 3 15 2 d 4a",
  "6 2 1 2 2b 4 0 2 1 2 8 9 9 7 5 2 1 2 24 2 1 2 5 8 9 7 2b 5 9 f7 18 8 10 2 28 4 1c 56 0 10 31",
  "e 39a 67 6e 2 4 c c3 a4d 62 e 42f 11 15 b f9a 6 246 1aba 39 6c7 238 8 1e 2 9 5 50 2 9 7 1d 3",
  "5 b 45 b 9 2 6 2 14 6 12 1b1 39 c7 5a 6 18 3 18 2d 4a 5 38 8 10 41 4 c 6 a 1cd5 2a 1f 62 72",
  "21fe 3 2 6 2 1 2 122 10 0 1e 2 3 0 f 3 9 18b 905 6a 6 c 4 8 8 9 3 7 f5d fc 4 1b3 7 16 10 10",
  "10 2d 3 16 a 73 3d f5 b 26 3 c1 16 45 7b 13 d 13 d 56 a 18 88 54 2 46 2 1 3 0 3 1 3 3 2 b 2",
  "0 2 6 2 40 2 3 3 7 2 6 2 1b 2 3 2 4 2 0 4 6 2 153 3 123 3 2bd 10 4 2 e 451 1e 7 5 d6 6 2 10",
  "3 6 2 1 2 4 6 3d 22 0 71 2c 4 d 3 9 5 1 141 1e 12 39 6 0 1d1 29 d7 2a 5 0 c1 1e 2 15 9 1 e1",
  "6 2 3 2 1 2 e 2 c4 3 f 2a 4b 5 9 5 1 312 43 4d 3c c3 3 2 1a 2 1 2 0 3 0 2 9 2 3 2 0 2 0 7 0",
  "5 0 2 0 2 0 2 2 2 1 2 0 3 0 2 0 2 0 2 0 2 0 2 1 2 0 3 3 2 6 2 3 2 3 2 0 2 9 2 10 6 2 2 4 2",
  "10 35 1 10f 2b 5 63 d e 3 e 2 e 2 24 c ac 39 1c e 2b 5 8 8 1 f 5 9b 3d8 4 10 4 c 4 d9 7 b 5",
  "0 10 b 5 37 9 9 7 27 9 1d 3 b 5 1 f 8 28 157 9 d 3 c 4 a 4 38 2 0 5 f 3 b 5 9 8 92 2 66 406",
  "a6df 21 111d 3 168d 3 1d30 10 26d 9a3 21d 5e3 134a 6 2129 acc87 ef"]

/-- The characters that vanish. -/
def ignored : CharTable Nat := .ofRanges [
  "ad 0 2a2 0 e10 1 654 1 56 4 7fc 0 55 4 6 5 10f5 0 cc9c f f0 0 a1 0 bd00 3 14d0 7 c2f86 ef"]

/-- Runs of characters that become the characters from the value on. -/
def shifted : CharTable (Nat × Nat) := .ofRuns [
  "41 19 61 46 0 20 a 0 61 8 1 32 2 0 3bc 4 0 31 1 0 6f c 0 e6 a 0 f0 8 0 f8 6 0 fe 32 0 111 16",
  "0 127 1b 0 142 9 0 14b 8 0 153 14 0 167 19 0 73 2 0 253 5 0 254 1 0 188 2 1 256 1 0 18c 3 0",
  "1dd 1 0 259 1 0 25b 1 0 192 2 0 260 1 0 263 2 0 269 1 0 268 1 0 199 4 0 26f 1 0 272 2 0 275",
  "7 0 280 1 0 1a8 2 0 283 3 0 1ad 2 0 288 3 1 28a 5 0 292 1 0 1b9 4 0 1bd 28 0 1e5 12 0 195 1",
  "0 1bf 25 0 21d 4 0 19e 1a 0 2c65 1 0 23c 2 0 19a 1 0 2c66 3 0 242 2 0 180 1 0 289 1 0 28c 6b",
  "0 68 1 0 266 1 0 6a 1 0 72 1 0 279 1 0 27b 1 0 281 1 0 77 1 0 79 28 0 263 1 0 6c 1 0 73 1 0",
  "78 1 0 295 61 0 3b9 31 0 377 9 0 3f3 12 10 3b1 2 6 3c3 26 0 3d7 1 0 3b2 1 0 3b8 1 0 3c5 3 0",
  "3c6 1 0 3c0 1a 0 3ba 1 0 3c1 1 0 3c3 2 0 3b8 1 0 3b5 2 0 3f8 2 0 3c3 1 0 3fb 3 2 37b 6 1 455",
  "2 3 458 4 0 45f 1 8 430 2 15 43a 91 0 4cf 14 0 4d5 4 0 4d9 8 0 4e1 8 0 4e9 e 0 4f7 3b 25 561",
  "9b6 0 f0b 194 25 2d00 2 0 2d27 6 0 2d2d 2f 0 10dc 2fc 5 13f0 883 0 432 1 0 434 1 0 43e 1 1",
  "441 1 0 442 1 0 44a 1 0 463 1 0 a64b 1 0 1c8a 7 2a 10d0 3 2 10fd 6d 0 61 1 0 e6 4 0 65 1 0",
  "1dd 1 7 67 2 0 6f 1 0 223 1 0 70 1 0 72 1 1 74 1 0 77 1 0 61 1 1 250 1 0 1d02 1 0 62 1 1 64",
  "1 0 259 1 1 25b 1 0 67 2 0 6b 1 0 6d 1 0 14b 1 0 6f 1 0 254 1 1 1d16 1 0 70 1 1 74 1 0 1d1d",
  "1 0 26f 1 0 76 1 0 1d25 1 2 3b2 1 1 3c6 1 0 69 1 0 72 1 1 75 1 1 3b2 1 0 3c1 1 1 3c6 e 0 43d",
  "23 0 252 1 0 63 1 0 255 1 0 f0 1 0 25c 1 0 66 1 0 25f 1 0 261 1 0 265 1 2 268 1 0 1d7b 1 0",
  "29d 1 0 26d 1 0 1d85 1 0 29f 1 0 271 1 0 270 1 3 272 1 0 278 1 1 282 1 0 1ab 1 1 289 1 0",
  "1d1c 1 1 28b 1 0 7a 1 2 290 1 0 3b8 df 0 df 164 0 20 1 0 20 1 0 20 1 0 20 1 0 20 1 0 20 1 0",
  "20 1 0 20 1 0 20 7 0 2010 1e 0 20 30 0 20 11 0 30 1 0 69 3 5 34 1 0 2b 1 0 2212 1 0 3d 1 1",
  "28 1 0 6e 1 9 30 1 0 2b 1 0 2212 1 0 3d 1 1 28 2 0 61 1 0 65 1 0 6f 1 0 78 1 0 259 1 0 68 1",
  "3 6b 1 0 70 1 1 73 66 0 63 5 0 25b 3 1 67 1 0 68 1 0 68 1 0 68 1 0 127 1 0 69 1 0 69 1 0 6c",
  "7 2 70 1 0 72 1 0 72 7 0 7a 4 0 7a 4 1 62 2 0 65 1 1 65 1 0 214e 1 0 6d 1 0 6f 1 3 5d0 1 0",
  "69 3 0 3c0 1 0 3b3 1 0 3b3 1 0 3c0 1 0 2211 5 0 64 1 1 64 1 1 69 17 0 69 4 0 76 5 0 78 3 0",
  "6c 1 1 63 1 0 6d 1 0 69 4 0 76 5 0 78 3 0 6c 1 1 63 1 0 6d 4 0 2184 2dd 8 31 4e 19 61 1 19",
  "61 1 0 30 716 2f 2c30 31 0 2c61 2 0 26b 1 0 1d7d 1 0 27d 9 0 251 1 0 271 1 0 250 1 0 252 2 0",
  "2c73 3 0 2c76 7 0 6a 1 0 76 1 1 23f 73 0 2cf3 7d 0 2d61 130 0 6bcd 54 0 9f9f d 0 4e00 1 0",
  "4e28 1 0 4e36 1 0 4e3f 1 0 4e59 1 0 4e85 1 0 4e8c 1 0 4ea0 1 0 4eba 1 0 513f 1 0 5165 1 0",
  "516b 1 0 5182 1 0 5196 1 0 51ab 1 0 51e0 1 0 51f5 1 0 5200 1 0 529b 1 0 52f9 1 0 5315 1 0",
  "531a 1 0 5338 1 0 5341 1 0 535c 1 0 5369 1 0 5382 1 0 53b6 1 0 53c8 1 0 53e3 1 0 56d7 1 0",
  "571f 1 0 58eb 1 0 5902 1 0 590a 1 0 5915 1 0 5927 1 0 5973 1 0 5b50 1 0 5b80 1 0 5bf8 1 0",
  "5c0f 1 0 5c22 1 0 5c38 1 0 5c6e 1 0 5c71 1 0 5ddb 1 0 5de5 1 0 5df1 1 0 5dfe 1 0 5e72 1 0",
  "5e7a 1 0 5e7f 1 0 5ef4 1 0 5efe 1 0 5f0b 1 0 5f13 1 0 5f50 1 0 5f61 1 0 5f73 1 0 5fc3 1 0",
  "6208 1 0 6236 1 0 624b 1 0 652f 1 0 6534 1 0 6587 1 0 6597 1 0 65a4 1 0 65b9 1 0 65e0 1 0",
  "65e5 1 0 66f0 1 0 6708 1 0 6728 1 0 6b20 1 0 6b62 1 0 6b79 1 0 6bb3 1 0 6bcb 1 0 6bd4 1 0",
  "6bdb 1 0 6c0f 1 0 6c14 1 0 6c34 1 0 706b 1 0 722a 1 0 7236 1 0 723b 1 0 723f 1 0 7247 1 0",
  "7259 1 0 725b 1 0 72ac 1 0 7384 1 0 7389 1 0 74dc 1 0 74e6 1 0 7518 1 0 751f 1 0 7528 1 0",
  "7530 1 0 758b 1 0 7592 1 0 7676 1 0 767d 1 0 76ae 1 0 76bf 1 0 76ee 1 0 77db 1 0 77e2 1 0",
  "77f3 1 0 793a 1 0 79b8 1 0 79be 1 0 7a74 1 0 7acb 1 0 7af9 1 0 7c73 1 0 7cf8 1 0 7f36 1 0",
  "7f51 1 0 7f8a 1 0 7fbd 1 0 8001 1 0 800c 1 0 8012 1 0 8033 1 0 807f 1 0 8089 1 0 81e3 1 0",
  "81ea 1 0 81f3 1 0 81fc 1 0 820c 1 0 821b 1 0 821f 1 0 826e 1 0 8272 1 0 8278 1 0 864d 1 0",
  "866b 1 0 8840 1 0 884c 1 0 8863 1 0 897e 1 0 898b 1 0 89d2 1 0 8a00 1 0 8c37 1 0 8c46 1 0",
  "8c55 1 0 8c78 1 0 8c9d 1 0 8d64 1 0 8d70 1 0 8db3 1 0 8eab 1 0 8eca 1 0 8f9b 1 0 8fb0 1 0",
  "8fb5 1 0 9091 1 0 9149 1 0 91c6 1 0 91cc 1 0 91d1 1 0 9577 1 0 9580 1 0 961c 1 0 96b6 1 0",
  "96b9 1 0 96e8 1 0 9751 1 0 975e 1 0 9762 1 0 9769 1 0 97cb 1 0 97ed 1 0 97f3 1 0 9801 1 0",
  "98a8 1 0 98db 1 0 98df 1 0 9996 1 0 9999 1 0 99ac 1 0 9aa8 1 0 9ad8 1 0 9adf 1 0 9b25 1 0",
  "9b2f 1 0 9b32 1 0 9b3c 1 0 9b5a 1 0 9ce5 1 0 9e75 1 0 9e7f 1 0 9ea5 1 0 9ebb 1 0 9ec3 1 0",
  "9ecd 1 0 9ed1 1 0 9ef9 1 0 9efd 1 0 9f0e 1 0 9f13 1 0 9f20 1 0 9f3b 1 0 9f4a 1 0 9f52 1 0",
  "9f8d 1 0 9f9c 1 0 9fa0 2b 0 20 2 0 2e 34 0 3012 2 0 5341 1 1 5344 f7 1 1100 1 0 11aa 1 0",
  "1102 1 1 11ac 1 2 1103 1 5 11b0 1 0 111a 1 2 1106 1 0 1121 1 9 1109 1 14 1161 2 1 1114 1 1",
  "11c7 1 0 11cc 1 0 11ce 1 0 11d3 1 0 11d7 1 0 11d9 1 0 111c 1 0 11dd 1 0 11df 1 1 111d 1 0",
  "1120 1 1 1122 1 0 1127 1 0 1129 1 4 112b 1 0 1132 1 0 1136 1 0 1140 1 0 1147 1 0 114c 1 1",
  "11f1 1 2 1157 1 1 1184 1 0 1188 1 1 1191 1 0 1194 1 0 119e 1 0 11a1 4 0 4e00 1 0 4e8c 1 0",
  "4e09 1 0 56db 1 0 4e0a 1 0 4e2d 1 0 4e0b 1 0 7532 1 0 4e59 1 0 4e19 1 0 4e01 1 0 5929 1 0",
  "5730 1 0 4eba a5 0 554f 1 0 5e7c 1 0 6587 1 0 7b8f 19 0 1100 1 1 1102 1 2 1105 1 0 1109 1 1",
  "110b 1 4 110e 1 0 ac00 1 0 b098 1 0 b2e4 1 0 b77c 1 0 b9c8 1 0 bc14 1 0 c0ac 1 0 c544 1 0",
  "c790 1 0 cc28 1 0 ce74 1 0 d0c0 1 0 d30c 1 0 d558 3 0 c6b0 2 0 4e00 1 0 4e8c 1 0 4e09 1 0",
  "56db 1 0 4e94 1 0 516d 1 0 4e03 1 0 516b 1 0 4e5d 1 0 5341 1 0 6708 1 0 706b 1 0 6c34 1 0",
  "6728 1 0 91d1 1 0 571f 1 0 65e5 1 0 682a 1 0 6709 1 0 793e 1 0 540d 1 0 7279 1 0 8ca1 1 0",
  "795d 1 0 52b4 1 0 79d8 1 0 7537 1 0 5973 1 0 9069 1 0 512a 1 0 5370 1 0 6ce8 1 0 9805 1 0",
  "4f11 1 0 5199 1 0 6b63 1 0 4e0a 1 0 4e2d 1 0 4e0b 1 0 5de6 1 0 53f3 1 0 533b 1 0 5b97 1 0",
  "5b66 1 0 76e3 1 0 4f01 1 0 8cc7 1 0 5354 1 0 591c 20 0 30a2 1 0 30a4 1 0 30a6 1 0 30a8 1 1",
  "30aa 1 0 30ad 1 0 30af 1 0 30b1 1 0 30b3 1 0 30b5 1 0 30b7 1 0 30b9 1 0 30bb 1 0 30bd 1 0",
  "30bf 1 0 30c1 1 0 30c4 1 0 30c6 1 0 30c8 1 5 30ca 1 0 30d2 1 0 30d5 1 0 30d8 1 0 30db 1 4",
  "30de 1 0 30e4 1 0 30e6 1 5 30e8 1 3 30ef 739e 0 44a 1 0 44c d3 0 a76f d 0 1d79 e 0 a78c 2 0",
  "265 1d 0 266 1 0 25c 1 0 261 1 0 26c 1 0 26a 2 0 29e 1 0 287 1 0 29d 1 0 ab53 11 0 a794 1 0",
  "282 1 0 1d8e 5 0 264 11 0 19b 15 0 73 1 0 63 1 0 66 1 0 71 1 0 a7f6 3 0 127 1 0 153 363 0",
  "a727 1 0 ab37 1 0 26b 1 0 ab52 a 0 28d 7 4f 13a0 4f61 0 5e2 1 0 5d0 1 1 5d3 1 2 5db 1 0 5e8",
  "1 0 5ea 1 0 2b 27 0 671 1 0 671 1 0 67b 1 0 67b 1 0 67b 1 0 67b 1 0 67e 1 0 67e 1 0 67e 1 0",
  "67e 1 0 680 1 0 680 1 0 680 1 0 680 1 0 67a 1 0 67a 1 0 67a 1 0 67a 1 0 67f 1 0 67f 1 0 67f",
  "1 0 67f 1 0 679 1 0 679 1 0 679 1 0 679 1 0 6a4 1 0 6a4 1 0 6a4 1 0 6a4 1 0 6a6 1 0 6a6 1 0",
  "6a6 1 0 6a6 1 0 684 1 0 684 1 0 684 1 0 684 1 0 683 1 0 683 1 0 683 1 0 683 1 0 686 1 0 686",
  "1 0 686 1 1 686 1 0 687 1 0 687 1 0 687 1 0 68d 1 0 68d 1 0 68c 1 0 68c 1 0 68e 1 0 68e 1 0",
  "688 1 0 688 1 0 698 1 0 698 1 0 691 1 0 691 1 0 6a9 1 0 6a9 1 0 6a9 1 0 6a9 1 0 6af 1 0 6af",
  "1 0 6af 1 0 6af 1 0 6b3 1 0 6b3 1 0 6b3 1 0 6b3 1 0 6b1 1 0 6b1 1 0 6b1 1 0 6b1 1 0 6ba 1 1",
  "6ba 1 0 6bb 1 0 6bb 1 0 6bb 1 0 6c0 1 1 6c0 1 0 6c1 1 0 6c1 1 0 6c1 1 0 6be 1 0 6be 1 0 6be",
  "1 0 6be 1 0 6d2 1 1 6d2 1 0 6d3 22 0 6ad 1 0 6ad 1 0 6ad 1 0 6ad 1 0 6c7 1 0 6c7 1 0 6c6 1 0",
  "6c6 1 0 6c8 1 0 6c8 2 0 6cb 1 0 6cb 1 0 6c5 1 0 6c5 1 0 6c9 1 0 6c9 1 0 6d0 1 0 6d0 1 0 6d0",
  "1 0 6d0 1 0 649 1 0 649 13 0 6cc 1 0 6cc 1 0 6cc 1 0 6cc 211 0 2c 1 0 3001 2 1 3a 1 0 21 1 0",
  "3f 1 1 3016 19 0 2014 1 0 2013 1 0 5f 1 0 5f 1 1 28 1 0 7b 1 0 7d 1 1 3014 1 1 3010 1 1 300a",
  "1 1 3008 1 3 300c 3 0 5b 1 0 5d 5 0 5f 1 0 5f 1 0 5f 1 0 2c 1 0 3001 3 0 3b 1 0 3a 1 0 3f 1",
  "0 21 1 0 2014 1 1 28 1 0 7b 1 0 7d 1 1 3014 1 0 23 1 0 26 1 1 2a 1 0 2d 1 0 3c 1 0 3e 1 0 3d",
  "2 0 5c 1 1 24 1 0 40 15 1 621 1 1 622 1 1 623 1 1 624 1 1 625 1 0 626 1 0 626 1 1 626 1 1",
  "627 1 0 628 1 0 628 1 1 628 1 1 629 1 0 62a 1 0 62a 1 1 62a 1 0 62b 1 0 62b 1 1 62b 1 0 62c",
  "1 0 62c 1 1 62c 1 0 62d 1 0 62d 1 1 62d 1 0 62e 1 0 62e 1 1 62e 1 1 62f 1 1 630 1 1 631 1 1",
  "632 1 0 633 1 0 633 1 1 633 1 0 634 1 0 634 1 1 634 1 0 635 1 0 635 1 1 635 1 0 636 1 0 636",
  "1 1 636 1 0 637 1 0 637 1 1 637 1 0 638 1 0 638 1 1 638 1 0 639 1 0 639 1 1 639 1 0 63a 1 0",
  "63a 1 0 63a 1 0 641 1 0 641 1 0 641 1 1 641 1 0 642 1 0 642 1 1 642 1 0 643 1 0 643 1 1 643",
  "1 0 644 1 0 644 1 1 644 1 0 645 1 0 645 1 1 645 1 0 646 1 0 646 1 1 646 1 0 647 1 0 647 1 1",
  "647 1 1 648 1 1 649 1 0 64a 1 0 64a 1 0 64a d 1f 21 1 19 61 1 23 5b 1 1 2985 1 0 2e 1 1 300c",
  "1 0 3001 1 0 30fb 1 0 30f2 1 0 30a1 1 0 30a3 1 0 30a5 1 0 30a7 1 0 30a9 1 0 30e3 1 0 30e5 1",
  "0 30e7 1 0 30c3 1 0 30fc 1 0 30a2 1 0 30a4 1 0 30a6 1 0 30a8 1 1 30aa 1 0 30ad 1 0 30af 1 0",
  "30b1 1 0 30b3 1 0 30b5 1 0 30b7 1 0 30b9 1 0 30bb 1 0 30bd 1 0 30bf 1 0 30c1 1 0 30c4 1 0",
  "30c6 1 0 30c8 1 5 30ca 1 0 30d2 1 0 30d5 1 0 30d8 1 0 30db 1 4 30de 1 0 30e4 1 0 30e6 1 5",
  "30e8 1 0 30ef 1 0 30f3 1 1 3099 2 1 1100 1 0 11aa 1 0 1102 1 1 11ac 1 2 1103 1 5 11b0 1 0",
  "111a 1 2 1106 1 0 1121 1 9 1109 4 5 1161 3 5 1167 3 5 116d 3 2 1173 4 1 a2 1 0 ac 2 0 a6 1 0",
  "a5 1 0 20a9 2 0 2502 1 3 2190 1 0 25a0 1 0 25cb 412 27 10428 89 23 104d8 9d a 10597 2 e",
  "105a3 2 6 105b3 2 1 105bb 1ec 1 2d0 1 0 e6 1 0 299 1 0 253 2 0 2a3 1 0 ab66 1 0 2a5 1 0 2a4",
  "1 1 256 1 0 1d91 1 0 258 1 0 25e 1 0 2a9 1 0 264 1 0 262 1 0 260 1 0 29b 1 0 127 1 0 29c 1 0",
  "267 1 0 284 1 1 2aa 1 0 26c 1 0 1df04 1 0 a78e 1 0 26e 1 0 1df05 1 0 28e 1 0 1df06 1 0 f8 1",
  "1 276 1 0 71 1 0 27a 1 0 1df08 1 1 27d 1 0 280 1 0 2a8 1 0 2a6 1 0 ab67 1 0 2a7 1 0 288 1 0",
  "2c71 2 0 28f 1 1 2a1 1 0 298 1 2 1c0 1 0 1df0a 1 0 1df1e 4c6 32 10cc0 9e 15 10d70 b3b 1f",
  "118c0 5581 1f 16e60 41 18 16ebb 5e1e 19 61 1 9 30 707 19 61 1 19 61 1 19 61 1 6 61 2 11 69 1",
  "19 61 1 19 61 4 0 64 3 0 67 3 1 6a 3 3 6e 2 7 73 1 3 61 5 5 69 2 a 70 1 19 61 1 19 61 1 1 61",
  "2 3 64 3 7 6a 2 6 73 2 19 61 1 1 61 2 3 64 2 4 69 2 0 6f 4 6 73 2 19 61 1 19 61 1 19 61 1 19",
  "61 1 19 61 1 19 61 1 19 61 1 19 61 1 19 61 1 19 61 1 19 61 1 19 61 1 19 61 1 0 131 1 0 237 3",
  "10 3b1 1 0 3b8 1 6 3c3 1 0 2207 1 10 3b1 1 0 3c3 1 6 3c3 1 0 2202 1 0 3b5 1 0 3b8 1 0 3ba 1",
  "0 3c6 1 0 3c1 1 0 3c0 1 10 3b1 1 0 3b8 1 6 3c3 1 0 2207 1 10 3b1 1 0 3c3 1 6 3c3 1 0 2202 1",
  "0 3b5 1 0 3b8 1 0 3ba 1 0 3c6 1 0 3c1 1 0 3c0 1 10 3b1 1 0 3b8 1 6 3c3 1 0 2207 1 10 3b1 1 0",
  "3c3 1 6 3c3 1 0 2202 1 0 3b5 1 0 3b8 1 0 3ba 1 0 3c6 1 0 3c1 1 0 3c0 1 10 3b1 1 0 3b8 1 6",
  "3c3 1 0 2207 1 10 3b1 1 0 3c3 1 6 3c3 1 0 2202 1 0 3b5 1 0 3b8 1 0 3ba 1 0 3c6 1 0 3c1 1 0",
  "3c0 1 10 3b1 1 0 3b8 1 6 3c3 1 0 2207 1 10 3b1 1 0 3c3 1 6 3c3 1 0 2202 1 0 3b5 1 0 3b8 1 0",
  "3ba 1 0 3c6 1 0 3c1 1 0 3c0 1 0 3dd 1 0 3dd 3 9 30 1 9 30 1 9 30 1 9 30 1 9 30 831 8 430 1 2",
  "43a 1 a 43e 1 0 44b 1 1 44d 1 0 a689 1 0 4d9 1 0 456 1 0 458 1 0 4e9 1 0 4af 1 0 4cf 1 8 430",
  "1 1 43a 1 1 43e 1 0 441 1 5 443 1 1 44a 1 0 491 1 0 456 1 0 455 1 0 45f 1 0 4ab 1 0 a651 1 0",
  "4b1 893 21 1e922 4df 1 627 1 0 62c 1 0 62f 2 0 648 1 0 632 1 0 62d 1 0 637 1 0 64a 1 3 643 1",
  "0 633 1 0 639 1 0 641 1 0 635 1 0 642 1 0 631 1 0 634 1 1 62a 1 0 62e 1 0 630 1 0 636 1 0",
  "638 1 0 63a 1 0 66e 1 0 6ba 1 0 6a1 1 0 66f 2 0 628 1 0 62c 2 0 647 3 0 62d 2 0 64a 1 3 643",
  "1 0 633 1 0 639 1 0 641 1 0 635 1 0 642 2 0 634 1 1 62a 1 0 62e 2 0 636 2 0 63a 7 0 62c 5 0",
  "62d 2 0 64a 5 0 633 1 0 639 2 0 635 1 0 642 2 0 634 3 0 62e 2 0 636 2 0 63a 2 0 6ba 2 0 66f",
  "2 0 628 1 0 62c 2 0 647 3 0 62d 1 0 637 1 0 64a 4 0 646 1 0 633 1 0 639 1 0 641 1 0 635 1 0",
  "642 2 0 634 1 1 62a 1 0 62e 2 0 636 1 0 638 1 0 63a 1 0 66e 2 0 6a1 2 1 627 1 0 62c 1 0 62f",
  "1 1 647 1 0 632 1 0 62d 1 0 637 1 0 64a 2 2 644 1 0 633 1 0 639 1 0 641 1 0 635 1 0 642 1 0",
  "631 1 0 634 1 1 62a 1 0 62e 1 0 630 1 0 636 1 0 638 1 0 63a 6 0 628 1 0 62c 1 0 62f 2 0 648",
  "1 0 632 1 0 62d 1 0 637 1 0 64a 2 2 644 1 0 633 1 0 639 1 0 641 1 0 635 1 0 642 1 0 631 1 0",
  "634 1 1 62a 1 0 62e 1 0 630 1 0 636 1 0 638 1 0 63a 270 0 63 1 0 72 4 19 61 b9 0 30b5 e 0",
  "624b 1 0 5b57 1 0 53cc 1 0 30c7 1 0 4e8c 1 0 591a 1 0 89e3 1 0 5929 1 0 4ea4 1 0 6620 1 0",
  "7121 1 0 6599 1 0 524d 1 0 5f8c 1 0 518d 1 0 65b0 1 0 521d 1 0 7d42 1 0 751f 1 0 8ca9 1 0",
  "58f0 1 0 5439 1 0 6f14 1 0 6295 1 0 6355 1 0 4e00 1 0 4e09 1 0 904a 1 0 5de6 1 0 4e2d 1 0",
  "53f3 1 0 6307 1 0 8d70 1 0 6253 1 0 7981 1 0 7a7a 1 0 5408 1 0 6e80 1 0 6709 1 0 6708 1 0",
  "7533 1 0 5272 1 0 55b6 1 0 914d 15 0 5f97 1 0 53ef 99f 9 30"]

/-- Runs in which every other character, the first one included, becomes the one as far from the
value. -/
def alternating : CharTable (Nat × Nat) := .ofRuns [
  "182 2 183 1e 2 1a3 f 2 1b4 6d 2 223 22 8 247 122 2 371 66 16 3d9 14 2 452 5c 14 461 4 8 479",
  "a 34 48b 5 a 4c4 2d 34 4fb 1800 2 62 1ca 4 1efb 215 2 6c b52 4 2c68 15 62 2c81 9 2 2cec 7953",
  "2c a641 14 1a a681 88 c a723 4 3c a733 b 2 a77a 3 8 a77f a 2 a791 4 12 a797 c e a7b5 5 2",
  "a7c8 3 e a7cd 12cc2 2 61 1d 2 66 198e 2 644 1d 2 643"]

/-- The characters that become several. -/
def expanded : CharTable Text := .ofSequences [
  "a8 2 20 308 7 2 20 304 5 2 20 301 4 2 20 327 4 3 31 2044 34 1 3 31 2044 32 1 3 33 2044 34 74",
  "2 69 6a 1 2 69 6a c 2 6c b7 1 2 6c b7 9 2 2bc 6e 7b 2 64 17e 1 2 64 17e 1 2 64 17e 1 2 6c 6a",
  "1 2 6c 6a 1 2 6c 6a 1 2 6e 6a 1 2 6e 6a 1 2 6e 6a 25 2 64 7a 1 2 64 7a 1 2 64 7a e5 2 20 306",
  "1 2 20 307 1 2 20 30a 1 2 20 328 1 2 20 303 1 2 20 30b 9d 2 20 3b9 a 2 20 301 203 2 565 582",
  "ee 2 627 674 1 2 648 674 1 2 6c7 674 1 2 64a 674 7bb 2 e4d e32 80 2 ecd eb2 29 2 eab e99 1 2",
  "eab ea1 9a 3 fb2 f71 f80 2 3 fb3 f71 f80 f21 2 61 2be 123 2 20 313 2 2 20 313 1 2 20 342 3e",
  "2 20 314 19 2 20 333 1c 2 2032 2032 1 3 2032 2032 2032 2 2 2035 2035 1 3 2035 2035 2035 5 2",
  "21 21 2 2 20 305 9 2 3f 3f 1 2 3f 21 1 2 21 3f e 4 2032 2032 2032 2032 51 2 72 73 58 3 61 2f",
  "63 1 3 61 2f 73 2 2 b0 63 2 3 63 2f 6f 1 3 63 2f 75 3 2 b0 66 d 2 6e 6f a 2 73 6d 1 3 74 65",
  "6c 1 2 74 6d 19 3 66 61 78 15 3 31 2044 37 1 3 31 2044 39 1 4 31 2044 31 30 1 3 31 2044 33 1",
  "3 32 2044 33 1 3 31 2044 35 1 3 32 2044 35 1 3 33 2044 35 1 3 34 2044 35 1 3 31 2044 36 1 3",
  "35 2044 36 1 3 31 2044 38 1 3 33 2044 38 1 3 35 2044 38 1 3 37 2044 38 1 2 31 2044 2 2 69 69",
  "1 3 69 69 69 1 2 69 76 2 2 76 69 1 3 76 69 69 1 4 76 69 69 69 1 2 69 78 2 2 78 69 1 3 78 69",
  "69 6 2 69 69 1 3 69 69 69 1 2 69 76 2 2 76 69 1 3 76 69 69 1 4 76 69 69 69 1 2 69 78 2 2 78",
  "69 1 3 78 69 69 e 3 30 2044 33 a3 2 222b 222b 1 3 222b 222b 222b 2 2 222e 222e 1 3 222e 222e",
  "222e 239 2 31 30 1 2 31 31 1 2 31 32 1 2 31 33 1 2 31 34 1 2 31 35 1 2 31 36 1 2 31 37 1 2",
  "31 38 1 2 31 39 1 2 32 30 1 3 28 31 29 1 3 28 32 29 1 3 28 33 29 1 3 28 34 29 1 3 28 35 29 1",
  "3 28 36 29 1 3 28 37 29 1 3 28 38 29 1 3 28 39 29 1 4 28 31 30 29 1 4 28 31 31 29 1 4 28 31",
  "32 29 1 4 28 31 33 29 1 4 28 31 34 29 1 4 28 31 35 29 1 4 28 31 36 29 1 4 28 31 37 29 1 4 28",
  "31 38 29 1 4 28 31 39 29 1 4 28 32 30 29 15 3 28 61 29 1 3 28 62 29 1 3 28 63 29 1 3 28 64",
  "29 1 3 28 65 29 1 3 28 66 29 1 3 28 67 29 1 3 28 68 29 1 3 28 69 29 1 3 28 6a 29 1 3 28 6b",
  "29 1 3 28 6c 29 1 3 28 6d 29 1 3 28 6e 29 1 3 28 6f 29 1 3 28 70 29 1 3 28 71 29 1 3 28 72",
  "29 1 3 28 73 29 1 3 28 74 29 1 3 28 75 29 1 3 28 76 29 1 3 28 77 29 1 3 28 78 29 1 3 28 79",
  "29 1 3 28 7a 29 557 4 222b 222b 222b 222b 68 3 3a 3a 3d 1 2 3d 3d 1 3 3d 3d 3d 625 2 20 3099",
  "1 2 20 309a 3 2 3088 308a 60 2 30b3 30c8 101 3 28 1100 29 1 3 28 1102 29 1 3 28 1103 29 1 3",
  "28 1105 29 1 3 28 1106 29 1 3 28 1107 29 1 3 28 1109 29 1 3 28 110b 29 1 3 28 110c 29 1 3 28",
  "110e 29 1 3 28 110f 29 1 3 28 1110 29 1 3 28 1111 29 1 3 28 1112 29 1 3 28 ac00 29 1 3 28",
  "b098 29 1 3 28 b2e4 29 1 3 28 b77c 29 1 3 28 b9c8 29 1 3 28 bc14 29 1 3 28 c0ac 29 1 3 28",
  "c544 29 1 3 28 c790 29 1 3 28 cc28 29 1 3 28 ce74 29 1 3 28 d0c0 29 1 3 28 d30c 29 1 3 28",
  "d558 29 1 3 28 c8fc 29 1 4 28 c624 c804 29 1 4 28 c624 d6c4 29 2 3 28 4e00 29 1 3 28 4e8c 29",
  "1 3 28 4e09 29 1 3 28 56db 29 1 3 28 4e94 29 1 3 28 516d 29 1 3 28 4e03 29 1 3 28 516b 29 1",
  "3 28 4e5d 29 1 3 28 5341 29 1 3 28 6708 29 1 3 28 706b 29 1 3 28 6c34 29 1 3 28 6728 29 1 3",
  "28 91d1 29 1 3 28 571f 29 1 3 28 65e5 29 1 3 28 682a 29 1 3 28 6709 29 1 3 28 793e 29 1 3 28",
  "540d 29 1 3 28 7279 29 1 3 28 8ca1 29 1 3 28 795d 29 1 3 28 52b4 29 1 3 28 4ee3 29 1 3 28",
  "547c 29 1 3 28 5b66 29 1 3 28 76e3 29 1 3 28 4f01 29 1 3 28 8cc7 29 1 3 28 5354 29 1 3 28",
  "796d 29 1 3 28 4f11 29 1 3 28 81ea 29 1 3 28 81f3 29 d 3 70 74 65 1 2 32 31 1 2 32 32 1 2 32",
  "33 1 2 32 34 1 2 32 35 1 2 32 36 1 2 32 37 1 2 32 38 1 2 32 39 1 2 33 30 1 2 33 31 1 2 33 32",
  "1 2 33 33 1 2 33 34 1 2 33 35 1d 2 cc38 ace0 1 2 c8fc c758 34 2 33 36 1 2 33 37 1 2 33 38 1",
  "2 33 39 1 2 34 30 1 2 34 31 1 2 34 32 1 2 34 33 1 2 34 34 1 2 34 35 1 2 34 36 1 2 34 37 1 2",
  "34 38 1 2 34 39 1 2 35 30 1 2 31 6708 1 2 32 6708 1 2 33 6708 1 2 34 6708 1 2 35 6708 1 2 36",
  "6708 1 2 37 6708 1 2 38 6708 1 2 39 6708 1 3 31 30 6708 1 3 31 31 6708 1 3 31 32 6708 1 2 68",
  "67 1 3 65 72 67 1 2 65 76 1 3 6c 74 64 30 2 4ee4 548c 1 4 30a2 30d1 30fc 30c8 1 4 30a2 30eb",
  "30d5 30a1 1 4 30a2 30f3 30da 30a2 1 3 30a2 30fc 30eb 1 4 30a4 30cb 30f3 30b0 1 3 30a4 30f3",
  "30c1 1 3 30a6 30a9 30f3 1 5 30a8 30b9 30af 30fc 30c9 1 4 30a8 30fc 30ab 30fc 1 3 30aa 30f3",
  "30b9 1 3 30aa 30fc 30e0 1 3 30ab 30a4 30ea 1 4 30ab 30e9 30c3 30c8 1 4 30ab 30ed 30ea 30fc 1",
  "3 30ac 30ed 30f3 1 3 30ac 30f3 30de 1 2 30ae 30ac 1 3 30ae 30cb 30fc 1 4 30ad 30e5 30ea 30fc",
  "1 4 30ae 30eb 30c0 30fc 1 2 30ad 30ed 1 5 30ad 30ed 30b0 30e9 30e0 1 6 30ad 30ed 30e1 30fc",
  "30c8 30eb 1 5 30ad 30ed 30ef 30c3 30c8 1 3 30b0 30e9 30e0 1 5 30b0 30e9 30e0 30c8 30f3 1 5",
  "30af 30eb 30bc 30a4 30ed 1 4 30af 30ed 30fc 30cd 1 3 30b1 30fc 30b9 1 3 30b3 30eb 30ca 1 3",
  "30b3 30fc 30dd 1 4 30b5 30a4 30af 30eb 1 5 30b5 30f3 30c1 30fc 30e0 1 4 30b7 30ea 30f3 30b0",
  "1 3 30bb 30f3 30c1 1 3 30bb 30f3 30c8 1 3 30c0 30fc 30b9 1 2 30c7 30b7 1 2 30c9 30eb 1 2",
  "30c8 30f3 1 2 30ca 30ce 1 3 30ce 30c3 30c8 1 3 30cf 30a4 30c4 1 5 30d1 30fc 30bb 30f3 30c8 1",
  "3 30d1 30fc 30c4 1 4 30d0 30fc 30ec 30eb 1 5 30d4 30a2 30b9 30c8 30eb 1 3 30d4 30af 30eb 1 2",
  "30d4 30b3 1 2 30d3 30eb 1 5 30d5 30a1 30e9 30c3 30c9 1 4 30d5 30a3 30fc 30c8 1 5 30d6 30c3",
  "30b7 30a7 30eb 1 3 30d5 30e9 30f3 1 5 30d8 30af 30bf 30fc 30eb 1 2 30da 30bd 1 3 30da 30cb",
  "30d2 1 3 30d8 30eb 30c4 1 3 30da 30f3 30b9 1 3 30da 30fc 30b8 1 3 30d9 30fc 30bf 1 4 30dd",
  "30a4 30f3 30c8 1 3 30dc 30eb 30c8 1 2 30db 30f3 1 3 30dd 30f3 30c9 1 3 30db 30fc 30eb 1 3",
  "30db 30fc 30f3 1 4 30de 30a4 30af 30ed 1 3 30de 30a4 30eb 1 3 30de 30c3 30cf 1 3 30de 30eb",
  "30af 1 5 30de 30f3 30b7 30e7 30f3 1 4 30df 30af 30ed 30f3 1 2 30df 30ea 1 5 30df 30ea 30d0",
  "30fc 30eb 1 2 30e1 30ac 1 4 30e1 30ac 30c8 30f3 1 4 30e1 30fc 30c8 30eb 1 3 30e4 30fc 30c9 1",
  "3 30e4 30fc 30eb 1 3 30e6 30a2 30f3 1 4 30ea 30c3 30c8 30eb 1 2 30ea 30e9 1 3 30eb 30d4 30fc",
  "1 4 30eb 30fc 30d6 30eb 1 2 30ec 30e0 1 5 30ec 30f3 30c8 30b2 30f3 1 3 30ef 30c3 30c8 1 2 30",
  "70b9 1 2 31 70b9 1 2 32 70b9 1 2 33 70b9 1 2 34 70b9 1 2 35 70b9 1 2 36 70b9 1 2 37 70b9 1 2",
  "38 70b9 1 2 39 70b9 1 3 31 30 70b9 1 3 31 31 70b9 1 3 31 32 70b9 1 3 31 33 70b9 1 3 31 34",
  "70b9 1 3 31 35 70b9 1 3 31 36 70b9 1 3 31 37 70b9 1 3 31 38 70b9 1 3 31 39 70b9 1 3 32 30",
  "70b9 1 3 32 31 70b9 1 3 32 32 70b9 1 3 32 33 70b9 1 3 32 34 70b9 1 3 68 70 61 1 2 64 61 1 2",
  "61 75 1 3 62 61 72 1 2 6f 76 1 2 70 63 1 2 64 6d 1 3 64 6d 32 1 3 64 6d 33 1 2 69 75 1 2",
  "5e73 6210 1 2 662d 548c 1 2 5927 6b63 1 2 660e 6cbb 1 4 682a 5f0f 4f1a 793e 1 2 70 61 1 2 6e",
  "61 1 2 3bc 61 1 2 6d 61 1 2 6b 61 1 2 6b 62 1 2 6d 62 1 2 67 62 1 3 63 61 6c 1 4 6b 63 61 6c",
  "1 2 70 66 1 2 6e 66 1 2 3bc 66 1 2 3bc 67 1 2 6d 67 1 2 6b 67 1 2 68 7a 1 3 6b 68 7a 1 3 6d",
  "68 7a 1 3 67 68 7a 1 3 74 68 7a 1 2 3bc 6c 1 2 6d 6c 1 2 64 6c 1 2 6b 6c 1 2 66 6d 1 2 6e 6d",
  "1 2 3bc 6d 1 2 6d 6d 1 2 63 6d 1 2 6b 6d 1 3 6d 6d 32 1 3 63 6d 32 1 2 6d 32 1 3 6b 6d 32 1",
  "3 6d 6d 33 1 3 63 6d 33 1 2 6d 33 1 3 6b 6d 33 1 3 6d 2215 73 1 4 6d 2215 73 32 1 2 70 61 1",
  "3 6b 70 61 1 3 6d 70 61 1 3 67 70 61 1 3 72 61 64 1 5 72 61 64 2215 73 1 6 72 61 64 2215 73",
  "32 1 2 70 73 1 2 6e 73 1 2 3bc 73 1 2 6d 73 1 2 70 76 1 2 6e 76 1 2 3bc 76 1 2 6d 76 1 2 6b",
  "76 1 2 6d 76 1 2 70 77 1 2 6e 77 1 2 3bc 77 1 2 6d 77 1 2 6b 77 1 2 6d 77 1 2 6b 3c9 1 2 6d",
  "3c9 2 2 62 71 1 2 63 63 1 2 63 64 1 4 63 2215 6b 67 2 2 64 62 1 2 67 79 1 2 68 61 1 2 68 70",
  "1 2 69 6e 1 2 6b 6b 1 2 6b 6d 1 2 6b 74 1 2 6c 6d 1 2 6c 6e 1 3 6c 6f 67 1 2 6c 78 1 2 6d 62",
  "1 3 6d 69 6c 1 3 6d 6f 6c 1 2 70 68 2 3 70 70 6d 1 2 70 72 1 2 73 72 1 2 73 76 1 2 77 62 1 3",
  "76 2215 6d 1 3 61 2215 6d 1 2 31 65e5 1 2 32 65e5 1 2 33 65e5 1 2 34 65e5 1 2 35 65e5 1 2 36",
  "65e5 1 2 37 65e5 1 2 38 65e5 1 2 39 65e5 1 3 31 30 65e5 1 3 31 31 65e5 1 3 31 32 65e5 1 3 31",
  "33 65e5 1 3 31 34 65e5 1 3 31 35 65e5 1 3 31 36 65e5 1 3 31 37 65e5 1 3 31 38 65e5 1 3 31 39",
  "65e5 1 3 32 30 65e5 1 3 32 31 65e5 1 3 32 32 65e5 1 3 32 33 65e5 1 3 32 34 65e5 1 3 32 35",
  "65e5 1 3 32 36 65e5 1 3 32 37 65e5 1 3 32 38 65e5 1 3 32 39 65e5 1 3 33 30 65e5 1 3 33 31",
  "65e5 1 3 67 61 6c c701 2 66 66 1 2 66 69 1 2 66 6c 1 3 66 66 69 1 3 66 66 6c 1 2 73 74 1 2",
  "73 74 d 2 574 576 1 2 574 565 1 2 574 56b 1 2 57e 576 1 2 574 56d 38 2 5d0 5dc 8e 2 6c7 674",
  "d 2 626 627 1 2 626 627 1 2 626 6d5 1 2 626 6d5 1 2 626 648 1 2 626 648 1 2 626 6c7 1 2 626",
  "6c7 1 2 626 6c6 1 2 626 6c6 1 2 626 6c8 1 2 626 6c8 1 2 626 6d0 1 2 626 6d0 1 2 626 6d0 1 2",
  "626 649 1 2 626 649 1 2 626 649 5 2 626 62c 1 2 626 62d 1 2 626 645 1 2 626 649 1 2 626 64a",
  "1 2 628 62c 1 2 628 62d 1 2 628 62e 1 2 628 645 1 2 628 649 1 2 628 64a 1 2 62a 62c 1 2 62a",
  "62d 1 2 62a 62e 1 2 62a 645 1 2 62a 649 1 2 62a 64a 1 2 62b 62c 1 2 62b 645 1 2 62b 649 1 2",
  "62b 64a 1 2 62c 62d 1 2 62c 645 1 2 62d 62c 1 2 62d 645 1 2 62e 62c 1 2 62e 62d 1 2 62e 645",
  "1 2 633 62c 1 2 633 62d 1 2 633 62e 1 2 633 645 1 2 635 62d 1 2 635 645 1 2 636 62c 1 2 636",
  "62d 1 2 636 62e 1 2 636 645 1 2 637 62d 1 2 637 645 1 2 638 645 1 2 639 62c 1 2 639 645 1 2",
  "63a 62c 1 2 63a 645 1 2 641 62c 1 2 641 62d 1 2 641 62e 1 2 641 645 1 2 641 649 1 2 641 64a",
  "1 2 642 62d 1 2 642 645 1 2 642 649 1 2 642 64a 1 2 643 627 1 2 643 62c 1 2 643 62d 1 2 643",
  "62e 1 2 643 644 1 2 643 645 1 2 643 649 1 2 643 64a 1 2 644 62c 1 2 644 62d 1 2 644 62e 1 2",
  "644 645 1 2 644 649 1 2 644 64a 1 2 645 62c 1 2 645 62d 1 2 645 62e 1 2 645 645 1 2 645 649",
  "1 2 645 64a 1 2 646 62c 1 2 646 62d 1 2 646 62e 1 2 646 645 1 2 646 649 1 2 646 64a 1 2 647",
  "62c 1 2 647 645 1 2 647 649 1 2 647 64a 1 2 64a 62c 1 2 64a 62d 1 2 64a 62e 1 2 64a 645 1 2",
  "64a 649 1 2 64a 64a 1 2 630 670 1 2 631 670 1 2 649 670 1 3 20 64c 651 1 3 20 64d 651 1 3 20",
  "64e 651 1 3 20 64f 651 1 3 20 650 651 1 3 20 651 670 1 2 626 631 1 2 626 632 1 2 626 645 1 2",
  "626 646 1 2 626 649 1 2 626 64a 1 2 628 631 1 2 628 632 1 2 628 645 1 2 628 646 1 2 628 649",
  "1 2 628 64a 1 2 62a 631 1 2 62a 632 1 2 62a 645 1 2 62a 646 1 2 62a 649 1 2 62a 64a 1 2 62b",
  "631 1 2 62b 632 1 2 62b 645 1 2 62b 646 1 2 62b 649 1 2 62b 64a 1 2 641 649 1 2 641 64a 1 2",
  "642 649 1 2 642 64a 1 2 643 627 1 2 643 644 1 2 643 645 1 2 643 649 1 2 643 64a 1 2 644 645",
  "1 2 644 649 1 2 644 64a 1 2 645 627 1 2 645 645 1 2 646 631 1 2 646 632 1 2 646 645 1 2 646",
  "646 1 2 646 649 1 2 646 64a 1 2 649 670 1 2 64a 631 1 2 64a 632 1 2 64a 645 1 2 64a 646 1 2",
  "64a 649 1 2 64a 64a 1 2 626 62c 1 2 626 62d 1 2 626 62e 1 2 626 645 1 2 626 647 1 2 628 62c",
  "1 2 628 62d 1 2 628 62e 1 2 628 645 1 2 628 647 1 2 62a 62c 1 2 62a 62d 1 2 62a 62e 1 2 62a",
  "645 1 2 62a 647 1 2 62b 645 1 2 62c 62d 1 2 62c 645 1 2 62d 62c 1 2 62d 645 1 2 62e 62c 1 2",
  "62e 645 1 2 633 62c 1 2 633 62d 1 2 633 62e 1 2 633 645 1 2 635 62d 1 2 635 62e 1 2 635 645",
  "1 2 636 62c 1 2 636 62d 1 2 636 62e 1 2 636 645 1 2 637 62d 1 2 638 645 1 2 639 62c 1 2 639",
  "645 1 2 63a 62c 1 2 63a 645 1 2 641 62c 1 2 641 62d 1 2 641 62e 1 2 641 645 1 2 642 62d 1 2",
  "642 645 1 2 643 62c 1 2 643 62d 1 2 643 62e 1 2 643 644 1 2 643 645 1 2 644 62c 1 2 644 62d",
  "1 2 644 62e 1 2 644 645 1 2 644 647 1 2 645 62c 1 2 645 62d 1 2 645 62e 1 2 645 645 1 2 646",
  "62c 1 2 646 62d 1 2 646 62e 1 2 646 645 1 2 646 647 1 2 647 62c 1 2 647 645 1 2 647 670 1 2",
  "64a 62c 1 2 64a 62d 1 2 64a 62e 1 2 64a 645 1 2 64a 647 1 2 626 645 1 2 626 647 1 2 628 645",
  "1 2 628 647 1 2 62a 645 1 2 62a 647 1 2 62b 645 1 2 62b 647 1 2 633 645 1 2 633 647 1 2 634",
  "645 1 2 634 647 1 2 643 644 1 2 643 645 1 2 644 645 1 2 646 645 1 2 646 647 1 2 64a 645 1 2",
  "64a 647 1 3 640 64e 651 1 3 640 64f 651 1 3 640 650 651 1 2 637 649 1 2 637 64a 1 2 639 649",
  "1 2 639 64a 1 2 63a 649 1 2 63a 64a 1 2 633 649 1 2 633 64a 1 2 634 649 1 2 634 64a 1 2 62d",
  "649 1 2 62d 64a 1 2 62c 649 1 2 62c 64a 1 2 62e 649 1 2 62e 64a 1 2 635 649 1 2 635 64a 1 2",
  "636 649 1 2 636 64a 1 2 634 62c 1 2 634 62d 1 2 634 62e 1 2 634 645 1 2 634 631 1 2 633 631",
  "1 2 635 631 1 2 636 631 1 2 637 649 1 2 637 64a 1 2 639 649 1 2 639 64a 1 2 63a 649 1 2 63a",
  "64a 1 2 633 649 1 2 633 64a 1 2 634 649 1 2 634 64a 1 2 62d 649 1 2 62d 64a 1 2 62c 649 1 2",
  "62c 64a 1 2 62e 649 1 2 62e 64a 1 2 635 649 1 2 635 64a 1 2 636 649 1 2 636 64a 1 2 634 62c",
  "1 2 634 62d 1 2 634 62e 1 2 634 645 1 2 634 631 1 2 633 631 1 2 635 631 1 2 636 631 1 2 634",
  "62c 1 2 634 62d 1 2 634 62e 1 2 634 645 1 2 633 647 1 2 634 647 1 2 637 645 1 2 633 62c 1 2",
  "633 62d 1 2 633 62e 1 2 634 62c 1 2 634 62d 1 2 634 62e 1 2 637 645 1 2 638 645 1 2 627 64b",
  "1 2 627 64b 13 3 62a 62c 645 1 3 62a 62d 62c 1 3 62a 62d 62c 1 3 62a 62d 645 1 3 62a 62e 645",
  "1 3 62a 645 62c 1 3 62a 645 62d 1 3 62a 645 62e 1 3 62c 645 62d 1 3 62c 645 62d 1 3 62d 645",
  "64a 1 3 62d 645 649 1 3 633 62d 62c 1 3 633 62c 62d 1 3 633 62c 649 1 3 633 645 62d 1 3 633",
  "645 62d 1 3 633 645 62c 1 3 633 645 645 1 3 633 645 645 1 3 635 62d 62d 1 3 635 62d 62d 1 3",
  "635 645 645 1 3 634 62d 645 1 3 634 62d 645 1 3 634 62c 64a 1 3 634 645 62e 1 3 634 645 62e",
  "1 3 634 645 645 1 3 634 645 645 1 3 636 62d 649 1 3 636 62e 645 1 3 636 62e 645 1 3 637 645",
  "62d 1 3 637 645 62d 1 3 637 645 645 1 3 637 645 64a 1 3 639 62c 645 1 3 639 645 645 1 3 639",
  "645 645 1 3 639 645 649 1 3 63a 645 645 1 3 63a 645 64a 1 3 63a 645 649 1 3 641 62e 645 1 3",
  "641 62e 645 1 3 642 645 62d 1 3 642 645 645 1 3 644 62d 645 1 3 644 62d 64a 1 3 644 62d 649",
  "1 3 644 62c 62c 1 3 644 62c 62c 1 3 644 62e 645 1 3 644 62e 645 1 3 644 645 62d 1 3 644 645",
  "62d 1 3 645 62d 62c 1 3 645 62d 645 1 3 645 62d 64a 1 3 645 62c 62d 1 3 645 62c 645 1 3 645",
  "62e 62c 1 3 645 62e 645 3 3 645 62c 62e 1 3 647 645 62c 1 3 647 645 645 1 3 646 62d 645 1 3",
  "646 62d 649 1 3 646 62c 645 1 3 646 62c 645 1 3 646 62c 649 1 3 646 645 64a 1 3 646 645 649",
  "1 3 64a 645 645 1 3 64a 645 645 1 3 628 62e 64a 1 3 62a 62c 64a 1 3 62a 62c 649 1 3 62a 62e",
  "64a 1 3 62a 62e 649 1 3 62a 645 64a 1 3 62a 645 649 1 3 62c 645 64a 1 3 62c 62d 649 1 3 62c",
  "645 649 1 3 633 62e 649 1 3 635 62d 64a 1 3 634 62d 64a 1 3 636 62d 64a 1 3 644 62c 64a 1 3",
  "644 645 64a 1 3 64a 62d 64a 1 3 64a 62c 64a 1 3 64a 645 64a 1 3 645 645 64a 1 3 642 645 64a",
  "1 3 646 62d 64a 1 3 642 645 62d 1 3 644 62d 645 1 3 639 645 64a 1 3 643 645 64a 1 3 646 62c",
  "62d 1 3 645 62e 64a 1 3 644 62c 645 1 3 643 645 645 1 3 644 62c 645 1 3 646 62c 62d 1 3 62c",
  "62d 64a 1 3 62d 62c 64a 1 3 645 62c 64a 1 3 641 645 64a 1 3 628 62d 64a 1 3 643 645 645 1 3",
  "639 62c 645 1 3 635 645 645 1 3 633 62e 64a 1 3 646 62c 64a 29 3 635 644 6d2 1 3 642 644 6d2",
  "1 4 627 644 644 647 1 4 627 643 628 631 1 4 645 62d 645 62f 1 4 635 644 639 645 1 4 631 633",
  "648 644 1 4 639 644 64a 647 1 4 648 633 644 645 1 3 635 644 649 1 12 635 644 649 20 627 644",
  "644 647 20 639 644 64a 647 20 648 633 644 645 1 8 62c 644 20 62c 644 627 644 647 1 4 631 6cc",
  "627 644 4d 2 20 305 1 2 20 305 1 2 20 305 1 2 20 305 24 2 20 64b 1 2 640 64b 1 2 20 64c 2 2",
  "20 64d 2 2 20 64e 1 2 640 64e 1 2 20 64f 1 2 640 64f 1 2 20 650 1 2 640 650 1 2 20 651 1 2",
  "640 651 1 2 20 652 1 2 640 652 76 2 644 622 1 2 644 622 1 2 644 623 1 2 644 623 1 2 644 625",
  "1 2 644 625 1 2 644 627 1 2 644 627 e7 2 20 304 f11e 2 30 2c 1 2 31 2c 1 2 32 2c 1 2 33 2c 1",
  "2 34 2c 1 2 35 2c 1 2 36 2c 1 2 37 2c 1 2 38 2c 1 2 39 2c 6 3 28 61 29 1 3 28 62 29 1 3 28",
  "63 29 1 3 28 64 29 1 3 28 65 29 1 3 28 66 29 1 3 28 67 29 1 3 28 68 29 1 3 28 69 29 1 3 28",
  "6a 29 1 3 28 6b 29 1 3 28 6c 29 1 3 28 6d 29 1 3 28 6e 29 1 3 28 6f 29 1 3 28 70 29 1 3 28",
  "71 29 1 3 28 72 29 1 3 28 73 29 1 3 28 74 29 1 3 28 75 29 1 3 28 76 29 1 3 28 77 29 1 3 28",
  "78 29 1 3 28 79 29 1 3 28 7a 29 1 3 3014 73 3015 3 2 63 64 1 2 77 7a 1c 2 68 76 1 2 6d 76 1",
  "2 73 64 1 2 73 73 1 3 70 70 76 1 2 77 63 1b 2 6d 63 1 2 6d 64 1 2 6d 72 24 2 64 6a 70 2 307b",
  "304b 1 2 30b3 30b3 3f 3 3014 672c 3015 1 3 3014 4e09 3015 1 3 3014 4e8c 3015 1 3 3014 5b89",
  "3015 1 3 3014 70b9 3015 1 3 3014 6253 3015 1 3 3014 76d7 3015 1 3 3014 52dd 3015 1 3 3014",
  "6557 3015"]

/-- What a character becomes that is the same as no sequence of others. -/
def mapSimple (c : Char) : Text :=
  if ignored.covers c then []
  else match expanded.valueAt? c.toNat, shifted.run? c, alternating.run? c with
    | some t, _, _ => t
    | none, some (distance, value), _ => [Char.ofNat (value + distance)]
    | none, none, some (distance, value) =>
      if distance % 2 = 0 then [Char.ofNat (value + distance)] else [c]
    | none, none, none => [c]

/-- What a character becomes. -/
def mapChar (c : Char) : Text := (Text.decompose c).flatMap mapSimple

/-- Whether a text has ASCII characters only. -/
def isAscii (t : Text) : Bool := t.all fun c => c.toNat < 128

/-- The form in which a name is compared. In ASCII only capital letters change. -/
def mapped? (t : Text) : Option Text :=
  if isAscii t then some (Text.lower t)
  else if t.all admitted.covers then some (Text.composed (t.flatMap mapChar))
  else none

end HttpExchange.Host
