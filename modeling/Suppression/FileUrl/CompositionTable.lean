/-!
Marks beyond ASCII and the characters that they make with those before them, as far as they may
stand in the names of hosts. They follow version 15 of the character database.
-/

namespace Suppression.FileUrl

/-- Marks in a row that have one weight: marks of different weights on one character may change
places. -/
structure WeightRun where
  first : Nat
  count : Nat
  weight : Nat

def weightRuns : List WeightRun := [
  ⟨0x300, 21, 230⟩, ⟨0x315, 1, 232⟩, ⟨0x316, 4, 220⟩, ⟨0x31a, 1, 232⟩, ⟨0x31b, 1, 216⟩,
  ⟨0x31c, 5, 220⟩, ⟨0x321, 2, 202⟩, ⟨0x323, 4, 220⟩, ⟨0x327, 2, 202⟩, ⟨0x329, 11, 220⟩,
  ⟨0x334, 5, 1⟩, ⟨0x339, 4, 220⟩, ⟨0x33d, 8, 230⟩, ⟨0x345, 1, 240⟩, ⟨0x346, 1, 230⟩,
  ⟨0x347, 3, 220⟩, ⟨0x34a, 3, 230⟩, ⟨0x34d, 2, 220⟩, ⟨0x350, 3, 230⟩, ⟨0x353, 4, 220⟩,
  ⟨0x357, 1, 230⟩, ⟨0x358, 1, 232⟩, ⟨0x359, 2, 220⟩, ⟨0x35b, 1, 230⟩, ⟨0x35c, 1, 233⟩,
  ⟨0x35d, 2, 234⟩, ⟨0x35f, 1, 233⟩, ⟨0x360, 2, 234⟩, ⟨0x362, 1, 233⟩, ⟨0x363, 13, 230⟩,
  ⟨0x483, 5, 230⟩, ⟨0x591, 1, 220⟩, ⟨0x592, 4, 230⟩, ⟨0x596, 1, 220⟩, ⟨0x597, 3, 230⟩,
  ⟨0x59a, 1, 222⟩, ⟨0x59b, 1, 220⟩, ⟨0x59c, 6, 230⟩, ⟨0x5a2, 6, 220⟩, ⟨0x5a8, 2, 230⟩,
  ⟨0x5aa, 1, 220⟩, ⟨0x5ab, 2, 230⟩, ⟨0x5ad, 1, 222⟩, ⟨0x5ae, 1, 228⟩, ⟨0x5af, 1, 230⟩,
  ⟨0x5b0, 1, 10⟩, ⟨0x5b1, 1, 11⟩, ⟨0x5b2, 1, 12⟩, ⟨0x5b3, 1, 13⟩, ⟨0x5b4, 1, 14⟩, ⟨0x5b5, 1, 15⟩,
  ⟨0x5b6, 1, 16⟩, ⟨0x5b7, 1, 17⟩, ⟨0x5b8, 1, 18⟩, ⟨0x5b9, 2, 19⟩, ⟨0x5bb, 1, 20⟩, ⟨0x5bc, 1, 21⟩,
  ⟨0x5bd, 1, 22⟩, ⟨0x5bf, 1, 23⟩, ⟨0x5c1, 1, 24⟩, ⟨0x5c2, 1, 25⟩, ⟨0x5c4, 1, 230⟩, ⟨0x5c5, 1, 220⟩,
  ⟨0x5c7, 1, 18⟩, ⟨0x610, 8, 230⟩, ⟨0x618, 1, 30⟩, ⟨0x619, 1, 31⟩, ⟨0x61a, 1, 32⟩, ⟨0x64b, 1, 27⟩,
  ⟨0x64c, 1, 28⟩, ⟨0x64d, 1, 29⟩, ⟨0x64e, 1, 30⟩, ⟨0x64f, 1, 31⟩, ⟨0x650, 1, 32⟩, ⟨0x651, 1, 33⟩,
  ⟨0x652, 1, 34⟩, ⟨0x653, 2, 230⟩, ⟨0x655, 2, 220⟩, ⟨0x657, 5, 230⟩, ⟨0x65c, 1, 220⟩,
  ⟨0x65d, 2, 230⟩, ⟨0x65f, 1, 220⟩, ⟨0x670, 1, 35⟩, ⟨0x6d6, 7, 230⟩, ⟨0x6df, 4, 230⟩,
  ⟨0x6e3, 1, 220⟩, ⟨0x6e4, 1, 230⟩, ⟨0x6e7, 2, 230⟩, ⟨0x6ea, 1, 220⟩, ⟨0x6eb, 2, 230⟩,
  ⟨0x6ed, 1, 220⟩, ⟨0x711, 1, 36⟩, ⟨0x730, 1, 230⟩, ⟨0x731, 1, 220⟩, ⟨0x732, 2, 230⟩,
  ⟨0x734, 1, 220⟩, ⟨0x735, 2, 230⟩, ⟨0x737, 3, 220⟩, ⟨0x73a, 1, 230⟩, ⟨0x73b, 2, 220⟩,
  ⟨0x73d, 1, 230⟩, ⟨0x73e, 1, 220⟩, ⟨0x73f, 3, 230⟩, ⟨0x742, 1, 220⟩, ⟨0x743, 1, 230⟩,
  ⟨0x744, 1, 220⟩, ⟨0x745, 1, 230⟩, ⟨0x746, 1, 220⟩, ⟨0x747, 1, 230⟩, ⟨0x748, 1, 220⟩,
  ⟨0x749, 2, 230⟩, ⟨0x7eb, 7, 230⟩, ⟨0x7f2, 1, 220⟩, ⟨0x7f3, 1, 230⟩, ⟨0x7fd, 1, 220⟩,
  ⟨0x816, 4, 230⟩, ⟨0x81b, 9, 230⟩, ⟨0x825, 3, 230⟩, ⟨0x829, 5, 230⟩, ⟨0x859, 3, 220⟩,
  ⟨0x898, 1, 230⟩, ⟨0x899, 3, 220⟩, ⟨0x89c, 4, 230⟩, ⟨0x8ca, 5, 230⟩, ⟨0x8cf, 5, 220⟩,
  ⟨0x8d4, 14, 230⟩, ⟨0x8e3, 1, 220⟩, ⟨0x8e4, 2, 230⟩, ⟨0x8e6, 1, 220⟩, ⟨0x8e7, 2, 230⟩,
  ⟨0x8e9, 1, 220⟩, ⟨0x8ea, 3, 230⟩, ⟨0x8ed, 3, 220⟩, ⟨0x8f0, 1, 27⟩, ⟨0x8f1, 1, 28⟩,
  ⟨0x8f2, 1, 29⟩, ⟨0x8f3, 3, 230⟩, ⟨0x8f6, 1, 220⟩, ⟨0x8f7, 2, 230⟩, ⟨0x8f9, 2, 220⟩,
  ⟨0x8fb, 5, 230⟩, ⟨0x93c, 1, 7⟩, ⟨0x94d, 1, 9⟩, ⟨0x951, 1, 230⟩, ⟨0x952, 1, 220⟩, ⟨0x953, 2, 230⟩,
  ⟨0x9bc, 1, 7⟩, ⟨0x9cd, 1, 9⟩, ⟨0x9fe, 1, 230⟩, ⟨0xa3c, 1, 7⟩, ⟨0xa4d, 1, 9⟩, ⟨0xabc, 1, 7⟩,
  ⟨0xacd, 1, 9⟩, ⟨0xb3c, 1, 7⟩, ⟨0xb4d, 1, 9⟩, ⟨0xbcd, 1, 9⟩, ⟨0xc3c, 1, 7⟩, ⟨0xc4d, 1, 9⟩,
  ⟨0xc55, 1, 84⟩, ⟨0xc56, 1, 91⟩, ⟨0xcbc, 1, 7⟩, ⟨0xccd, 1, 9⟩, ⟨0xd3b, 2, 9⟩, ⟨0xd4d, 1, 9⟩,
  ⟨0xdca, 1, 9⟩, ⟨0xe38, 2, 103⟩, ⟨0xe3a, 1, 9⟩, ⟨0xe48, 4, 107⟩, ⟨0xeb8, 2, 118⟩, ⟨0xeba, 1, 9⟩,
  ⟨0xec8, 4, 122⟩, ⟨0xf18, 2, 220⟩, ⟨0xf35, 1, 220⟩, ⟨0xf37, 1, 220⟩, ⟨0xf39, 1, 216⟩,
  ⟨0xf71, 1, 129⟩, ⟨0xf72, 1, 130⟩, ⟨0xf74, 1, 132⟩, ⟨0xf7a, 4, 130⟩, ⟨0xf80, 1, 130⟩,
  ⟨0xf82, 2, 230⟩, ⟨0xf84, 1, 9⟩, ⟨0xf86, 2, 230⟩, ⟨0xfc6, 1, 220⟩, ⟨0x1037, 1, 7⟩, ⟨0x1039, 2, 9⟩,
  ⟨0x108d, 1, 220⟩, ⟨0x135d, 3, 230⟩, ⟨0x1714, 2, 9⟩, ⟨0x1734, 1, 9⟩, ⟨0x17d2, 1, 9⟩,
  ⟨0x17dd, 1, 230⟩, ⟨0x18a9, 1, 228⟩, ⟨0x1939, 1, 222⟩, ⟨0x193a, 1, 230⟩, ⟨0x193b, 1, 220⟩,
  ⟨0x1a17, 1, 230⟩, ⟨0x1a18, 1, 220⟩, ⟨0x1a60, 1, 9⟩, ⟨0x1a75, 8, 230⟩, ⟨0x1a7f, 1, 220⟩,
  ⟨0x1ab0, 5, 230⟩, ⟨0x1ab5, 6, 220⟩, ⟨0x1abb, 2, 230⟩, ⟨0x1abd, 1, 220⟩, ⟨0x1abf, 2, 220⟩,
  ⟨0x1ac1, 2, 230⟩, ⟨0x1ac3, 2, 220⟩, ⟨0x1ac5, 5, 230⟩, ⟨0x1aca, 1, 220⟩, ⟨0x1acb, 4, 230⟩,
  ⟨0x1b34, 1, 7⟩, ⟨0x1b44, 1, 9⟩, ⟨0x1b6b, 1, 230⟩, ⟨0x1b6c, 1, 220⟩, ⟨0x1b6d, 7, 230⟩,
  ⟨0x1baa, 2, 9⟩, ⟨0x1be6, 1, 7⟩, ⟨0x1bf2, 2, 9⟩, ⟨0x1c37, 1, 7⟩, ⟨0x1cd0, 3, 230⟩, ⟨0x1cd4, 1, 1⟩,
  ⟨0x1cd5, 5, 220⟩, ⟨0x1cda, 2, 230⟩, ⟨0x1cdc, 4, 220⟩, ⟨0x1ce0, 1, 230⟩, ⟨0x1ce2, 7, 1⟩,
  ⟨0x1ced, 1, 220⟩, ⟨0x1cf4, 1, 230⟩, ⟨0x1cf8, 2, 230⟩, ⟨0x1dc0, 2, 230⟩, ⟨0x1dc2, 1, 220⟩,
  ⟨0x1dc3, 7, 230⟩, ⟨0x1dca, 1, 220⟩, ⟨0x1dcb, 2, 230⟩, ⟨0x1dcd, 1, 234⟩, ⟨0x1dce, 1, 214⟩,
  ⟨0x1dcf, 1, 220⟩, ⟨0x1dd0, 1, 202⟩, ⟨0x1dd1, 37, 230⟩, ⟨0x1df6, 1, 232⟩, ⟨0x1df7, 2, 228⟩,
  ⟨0x1df9, 1, 220⟩, ⟨0x1dfa, 1, 218⟩, ⟨0x1dfb, 1, 230⟩, ⟨0x1dfc, 1, 233⟩, ⟨0x1dfd, 1, 220⟩,
  ⟨0x1dfe, 1, 230⟩, ⟨0x1dff, 1, 220⟩, ⟨0x20d0, 2, 230⟩, ⟨0x20d2, 2, 1⟩, ⟨0x20d4, 4, 230⟩,
  ⟨0x20d8, 3, 1⟩, ⟨0x20db, 2, 230⟩, ⟨0x20e1, 1, 230⟩, ⟨0x20e5, 2, 1⟩, ⟨0x20e7, 1, 230⟩,
  ⟨0x20e8, 1, 220⟩, ⟨0x20e9, 1, 230⟩, ⟨0x20ea, 2, 1⟩, ⟨0x20ec, 4, 220⟩, ⟨0x20f0, 1, 230⟩,
  ⟨0x2cef, 3, 230⟩, ⟨0x2d7f, 1, 9⟩, ⟨0x2de0, 32, 230⟩, ⟨0x302a, 1, 218⟩, ⟨0x302b, 1, 228⟩,
  ⟨0x302c, 1, 232⟩, ⟨0x302d, 1, 222⟩, ⟨0x302e, 2, 224⟩, ⟨0x3099, 2, 8⟩, ⟨0xa66f, 1, 230⟩,
  ⟨0xa674, 10, 230⟩, ⟨0xa69e, 2, 230⟩, ⟨0xa6f0, 2, 230⟩, ⟨0xa806, 1, 9⟩, ⟨0xa82c, 1, 9⟩,
  ⟨0xa8c4, 1, 9⟩, ⟨0xa8e0, 18, 230⟩, ⟨0xa92b, 3, 220⟩, ⟨0xa953, 1, 9⟩, ⟨0xa9b3, 1, 7⟩,
  ⟨0xa9c0, 1, 9⟩, ⟨0xaab0, 1, 230⟩, ⟨0xaab2, 2, 230⟩, ⟨0xaab4, 1, 220⟩, ⟨0xaab7, 2, 230⟩,
  ⟨0xaabe, 2, 230⟩, ⟨0xaac1, 1, 230⟩, ⟨0xaaf6, 1, 9⟩, ⟨0xabed, 1, 9⟩, ⟨0xfb1e, 1, 26⟩,
  ⟨0xfe20, 7, 230⟩, ⟨0xfe27, 7, 220⟩, ⟨0xfe2e, 2, 230⟩, ⟨0x101fd, 1, 220⟩, ⟨0x102e0, 1, 220⟩,
  ⟨0x10376, 5, 230⟩, ⟨0x10a0d, 1, 220⟩, ⟨0x10a0f, 1, 230⟩, ⟨0x10a38, 1, 230⟩, ⟨0x10a39, 1, 1⟩,
  ⟨0x10a3a, 1, 220⟩, ⟨0x10a3f, 1, 9⟩, ⟨0x10ae5, 1, 230⟩, ⟨0x10ae6, 1, 220⟩, ⟨0x10d24, 4, 230⟩,
  ⟨0x10eab, 2, 230⟩, ⟨0x10efd, 3, 220⟩, ⟨0x10f46, 2, 220⟩, ⟨0x10f48, 3, 230⟩, ⟨0x10f4b, 1, 220⟩,
  ⟨0x10f4c, 1, 230⟩, ⟨0x10f4d, 4, 220⟩, ⟨0x10f82, 1, 230⟩, ⟨0x10f83, 1, 220⟩, ⟨0x10f84, 1, 230⟩,
  ⟨0x10f85, 1, 220⟩, ⟨0x11046, 1, 9⟩, ⟨0x11070, 1, 9⟩, ⟨0x1107f, 1, 9⟩, ⟨0x110b9, 1, 9⟩,
  ⟨0x110ba, 1, 7⟩, ⟨0x11100, 3, 230⟩, ⟨0x11133, 2, 9⟩, ⟨0x11173, 1, 7⟩, ⟨0x111c0, 1, 9⟩,
  ⟨0x111ca, 1, 7⟩, ⟨0x11235, 1, 9⟩, ⟨0x11236, 1, 7⟩, ⟨0x112e9, 1, 7⟩, ⟨0x112ea, 1, 9⟩,
  ⟨0x1133b, 2, 7⟩, ⟨0x1134d, 1, 9⟩, ⟨0x11366, 7, 230⟩, ⟨0x11370, 5, 230⟩, ⟨0x11442, 1, 9⟩,
  ⟨0x11446, 1, 7⟩, ⟨0x1145e, 1, 230⟩, ⟨0x114c2, 1, 9⟩, ⟨0x114c3, 1, 7⟩, ⟨0x115bf, 1, 9⟩,
  ⟨0x115c0, 1, 7⟩, ⟨0x1163f, 1, 9⟩, ⟨0x116b6, 1, 9⟩, ⟨0x116b7, 1, 7⟩, ⟨0x1172b, 1, 9⟩,
  ⟨0x11839, 1, 9⟩, ⟨0x1183a, 1, 7⟩, ⟨0x1193d, 2, 9⟩, ⟨0x11943, 1, 7⟩, ⟨0x119e0, 1, 9⟩,
  ⟨0x11a34, 1, 9⟩, ⟨0x11a47, 1, 9⟩, ⟨0x11a99, 1, 9⟩, ⟨0x11c3f, 1, 9⟩, ⟨0x11d42, 1, 7⟩,
  ⟨0x11d44, 2, 9⟩, ⟨0x11d97, 1, 9⟩, ⟨0x11f41, 2, 9⟩, ⟨0x16af0, 5, 1⟩, ⟨0x16b30, 7, 230⟩,
  ⟨0x16ff0, 2, 6⟩, ⟨0x1bc9e, 1, 1⟩, ⟨0x1d165, 2, 216⟩, ⟨0x1d167, 3, 1⟩, ⟨0x1d16d, 1, 226⟩,
  ⟨0x1d16e, 5, 216⟩, ⟨0x1d17b, 8, 220⟩, ⟨0x1d185, 5, 230⟩, ⟨0x1d18a, 2, 220⟩, ⟨0x1d1aa, 4, 230⟩,
  ⟨0x1d242, 3, 230⟩, ⟨0x1e000, 7, 230⟩, ⟨0x1e008, 17, 230⟩, ⟨0x1e01b, 7, 230⟩, ⟨0x1e023, 2, 230⟩,
  ⟨0x1e026, 5, 230⟩, ⟨0x1e08f, 1, 230⟩, ⟨0x1e130, 7, 230⟩, ⟨0x1e2ae, 1, 230⟩, ⟨0x1e2ec, 4, 230⟩,
  ⟨0x1e4ec, 2, 232⟩, ⟨0x1e4ee, 1, 220⟩, ⟨0x1e4ef, 1, 230⟩, ⟨0x1e8d0, 7, 220⟩, ⟨0x1e944, 6, 230⟩,
  ⟨0x1e94a, 1, 7⟩]

/-- A character, and those that it makes one character with if it comes after them, each beside that
character. -/
structure Joining where
  second : Nat
  firsts : List (Nat × Nat)

def joinings : List Joining := [
  ⟨0x300, [(0x61, 0xe0), (0x65, 0xe8), (0x69, 0xec), (0x6e, 0x1f9), (0x6f, 0xf2), (0x75, 0xf9),
    (0x77, 0x1e81), (0x79, 0x1ef3), (0xe2, 0x1ea7), (0xea, 0x1ec1), (0xf4, 0x1ed3), (0xfc, 0x1dc),
    (0x103, 0x1eb1), (0x113, 0x1e15), (0x14d, 0x1e51), (0x1a1, 0x1edd), (0x1b0, 0x1eeb),
    (0x3b1, 0x1f70), (0x3b5, 0x1f72), (0x3b7, 0x1f74), (0x3b9, 0x1f76), (0x3bf, 0x1f78),
    (0x3c5, 0x1f7a), (0x3c9, 0x1f7c), (0x3ca, 0x1fd2), (0x3cb, 0x1fe2), (0x435, 0x450),
    (0x438, 0x45d), (0x1f00, 0x1f02), (0x1f01, 0x1f03), (0x1f10, 0x1f12), (0x1f11, 0x1f13),
    (0x1f20, 0x1f22), (0x1f21, 0x1f23), (0x1f30, 0x1f32), (0x1f31, 0x1f33), (0x1f40, 0x1f42),
    (0x1f41, 0x1f43), (0x1f50, 0x1f52), (0x1f51, 0x1f53), (0x1f60, 0x1f62), (0x1f61, 0x1f63)]⟩,
  ⟨0x301, [(0x61, 0xe1), (0x63, 0x107), (0x65, 0xe9), (0x67, 0x1f5), (0x69, 0xed), (0x6b, 0x1e31),
    (0x6c, 0x13a), (0x6d, 0x1e3f), (0x6e, 0x144), (0x6f, 0xf3), (0x70, 0x1e55), (0x72, 0x155),
    (0x73, 0x15b), (0x75, 0xfa), (0x77, 0x1e83), (0x79, 0xfd), (0x7a, 0x17a), (0xe2, 0x1ea5),
    (0xe5, 0x1fb), (0xe6, 0x1fd), (0xe7, 0x1e09), (0xea, 0x1ebf), (0xef, 0x1e2f), (0xf4, 0x1ed1),
    (0xf5, 0x1e4d), (0xf8, 0x1ff), (0xfc, 0x1d8), (0x103, 0x1eaf), (0x113, 0x1e17),
    (0x14d, 0x1e53), (0x169, 0x1e79), (0x1a1, 0x1edb), (0x1b0, 0x1ee9), (0x3b1, 0x3ac),
    (0x3b5, 0x3ad), (0x3b7, 0x3ae), (0x3b9, 0x3af), (0x3bf, 0x3cc), (0x3c5, 0x3cd), (0x3c9, 0x3ce),
    (0x3ca, 0x390), (0x3cb, 0x3b0), (0x433, 0x453), (0x43a, 0x45c), (0x1f00, 0x1f04),
    (0x1f01, 0x1f05), (0x1f10, 0x1f14), (0x1f11, 0x1f15), (0x1f20, 0x1f24), (0x1f21, 0x1f25),
    (0x1f30, 0x1f34), (0x1f31, 0x1f35), (0x1f40, 0x1f44), (0x1f41, 0x1f45), (0x1f50, 0x1f54),
    (0x1f51, 0x1f55), (0x1f60, 0x1f64), (0x1f61, 0x1f65)]⟩,
  ⟨0x302, [(0x61, 0xe2), (0x63, 0x109), (0x65, 0xea), (0x67, 0x11d), (0x68, 0x125), (0x69, 0xee),
    (0x6a, 0x135), (0x6f, 0xf4), (0x73, 0x15d), (0x75, 0xfb), (0x77, 0x175), (0x79, 0x177),
    (0x7a, 0x1e91), (0x1ea1, 0x1ead), (0x1eb9, 0x1ec7), (0x1ecd, 0x1ed9)]⟩,
  ⟨0x303, [(0x61, 0xe3), (0x65, 0x1ebd), (0x69, 0x129), (0x6e, 0xf1), (0x6f, 0xf5), (0x75, 0x169),
    (0x76, 0x1e7d), (0x79, 0x1ef9), (0xe2, 0x1eab), (0xea, 0x1ec5), (0xf4, 0x1ed7),
    (0x103, 0x1eb5), (0x1a1, 0x1ee1), (0x1b0, 0x1eef)]⟩,
  ⟨0x304, [(0x61, 0x101), (0x65, 0x113), (0x67, 0x1e21), (0x69, 0x12b), (0x6f, 0x14d),
    (0x75, 0x16b), (0x79, 0x233), (0xe4, 0x1df), (0xe6, 0x1e3), (0xf5, 0x22d), (0xf6, 0x22b),
    (0xfc, 0x1d6), (0x1eb, 0x1ed), (0x227, 0x1e1), (0x22f, 0x231), (0x3b1, 0x1fb1),
    (0x3b9, 0x1fd1), (0x3c5, 0x1fe1), (0x438, 0x4e3), (0x443, 0x4ef), (0x1e37, 0x1e39),
    (0x1e5b, 0x1e5d)]⟩,
  ⟨0x306, [(0x61, 0x103), (0x65, 0x115), (0x67, 0x11f), (0x69, 0x12d), (0x6f, 0x14f),
    (0x75, 0x16d), (0x229, 0x1e1d), (0x3b1, 0x1fb0), (0x3b9, 0x1fd0), (0x3c5, 0x1fe0),
    (0x430, 0x4d1), (0x435, 0x4d7), (0x436, 0x4c2), (0x438, 0x439), (0x443, 0x45e),
    (0x1ea1, 0x1eb7)]⟩,
  ⟨0x307, [(0x61, 0x227), (0x62, 0x1e03), (0x63, 0x10b), (0x64, 0x1e0b), (0x65, 0x117),
    (0x66, 0x1e1f), (0x67, 0x121), (0x68, 0x1e23), (0x6d, 0x1e41), (0x6e, 0x1e45), (0x6f, 0x22f),
    (0x70, 0x1e57), (0x72, 0x1e59), (0x73, 0x1e61), (0x74, 0x1e6b), (0x77, 0x1e87), (0x78, 0x1e8b),
    (0x79, 0x1e8f), (0x7a, 0x17c), (0x15b, 0x1e65), (0x161, 0x1e67), (0x1e63, 0x1e69)]⟩,
  ⟨0x308, [(0x61, 0xe4), (0x65, 0xeb), (0x68, 0x1e27), (0x69, 0xef), (0x6f, 0xf6), (0x74, 0x1e97),
    (0x75, 0xfc), (0x77, 0x1e85), (0x78, 0x1e8d), (0x79, 0xff), (0xf5, 0x1e4f), (0x16b, 0x1e7b),
    (0x3b9, 0x3ca), (0x3c5, 0x3cb), (0x430, 0x4d3), (0x435, 0x451), (0x436, 0x4dd), (0x437, 0x4df),
    (0x438, 0x4e5), (0x43e, 0x4e7), (0x443, 0x4f1), (0x447, 0x4f5), (0x44b, 0x4f9), (0x44d, 0x4ed),
    (0x456, 0x457), (0x4d9, 0x4db), (0x4e9, 0x4eb)]⟩,
  ⟨0x309, [(0x61, 0x1ea3), (0x65, 0x1ebb), (0x69, 0x1ec9), (0x6f, 0x1ecf), (0x75, 0x1ee7),
    (0x79, 0x1ef7), (0xe2, 0x1ea9), (0xea, 0x1ec3), (0xf4, 0x1ed5), (0x103, 0x1eb3),
    (0x1a1, 0x1edf), (0x1b0, 0x1eed)]⟩,
  ⟨0x30a, [(0x61, 0xe5), (0x75, 0x16f), (0x77, 0x1e98), (0x79, 0x1e99)]⟩,
  ⟨0x30b, [(0x6f, 0x151), (0x75, 0x171), (0x443, 0x4f3)]⟩,
  ⟨0x30c, [(0x61, 0x1ce), (0x63, 0x10d), (0x64, 0x10f), (0x65, 0x11b), (0x67, 0x1e7),
    (0x68, 0x21f), (0x69, 0x1d0), (0x6a, 0x1f0), (0x6b, 0x1e9), (0x6c, 0x13e), (0x6e, 0x148),
    (0x6f, 0x1d2), (0x72, 0x159), (0x73, 0x161), (0x74, 0x165), (0x75, 0x1d4), (0x7a, 0x17e),
    (0xfc, 0x1da), (0x292, 0x1ef)]⟩,
  ⟨0x30f, [(0x61, 0x201), (0x65, 0x205), (0x69, 0x209), (0x6f, 0x20d), (0x72, 0x211),
    (0x75, 0x215), (0x475, 0x477)]⟩,
  ⟨0x311, [(0x61, 0x203), (0x65, 0x207), (0x69, 0x20b), (0x6f, 0x20f), (0x72, 0x213),
    (0x75, 0x217)]⟩,
  ⟨0x313, [(0x3b1, 0x1f00), (0x3b5, 0x1f10), (0x3b7, 0x1f20), (0x3b9, 0x1f30), (0x3bf, 0x1f40),
    (0x3c1, 0x1fe4), (0x3c5, 0x1f50), (0x3c9, 0x1f60)]⟩,
  ⟨0x314, [(0x3b1, 0x1f01), (0x3b5, 0x1f11), (0x3b7, 0x1f21), (0x3b9, 0x1f31), (0x3bf, 0x1f41),
    (0x3c1, 0x1fe5), (0x3c5, 0x1f51), (0x3c9, 0x1f61)]⟩,
  ⟨0x31b, [(0x6f, 0x1a1), (0x75, 0x1b0)]⟩,
  ⟨0x323, [(0x61, 0x1ea1), (0x62, 0x1e05), (0x64, 0x1e0d), (0x65, 0x1eb9), (0x68, 0x1e25),
    (0x69, 0x1ecb), (0x6b, 0x1e33), (0x6c, 0x1e37), (0x6d, 0x1e43), (0x6e, 0x1e47), (0x6f, 0x1ecd),
    (0x72, 0x1e5b), (0x73, 0x1e63), (0x74, 0x1e6d), (0x75, 0x1ee5), (0x76, 0x1e7f), (0x77, 0x1e89),
    (0x79, 0x1ef5), (0x7a, 0x1e93), (0x1a1, 0x1ee3), (0x1b0, 0x1ef1)]⟩,
  ⟨0x324, [(0x75, 0x1e73)]⟩,
  ⟨0x325, [(0x61, 0x1e01)]⟩,
  ⟨0x326, [(0x73, 0x219), (0x74, 0x21b)]⟩,
  ⟨0x327, [(0x63, 0xe7), (0x64, 0x1e11), (0x65, 0x229), (0x67, 0x123), (0x68, 0x1e29),
    (0x6b, 0x137), (0x6c, 0x13c), (0x6e, 0x146), (0x72, 0x157), (0x73, 0x15f), (0x74, 0x163)]⟩,
  ⟨0x328, [(0x61, 0x105), (0x65, 0x119), (0x69, 0x12f), (0x6f, 0x1eb), (0x75, 0x173)]⟩,
  ⟨0x32d, [(0x64, 0x1e13), (0x65, 0x1e19), (0x6c, 0x1e3d), (0x6e, 0x1e4b), (0x74, 0x1e71),
    (0x75, 0x1e77)]⟩,
  ⟨0x32e, [(0x68, 0x1e2b)]⟩,
  ⟨0x330, [(0x65, 0x1e1b), (0x69, 0x1e2d), (0x75, 0x1e75)]⟩,
  ⟨0x331, [(0x62, 0x1e07), (0x64, 0x1e0f), (0x68, 0x1e96), (0x6b, 0x1e35), (0x6c, 0x1e3b),
    (0x6e, 0x1e49), (0x72, 0x1e5f), (0x74, 0x1e6f), (0x7a, 0x1e95)]⟩,
  ⟨0x338, [(0x3c, 0x226e), (0x3d, 0x2260), (0x3e, 0x226f), (0x2190, 0x219a), (0x2192, 0x219b),
    (0x2194, 0x21ae), (0x21d0, 0x21cd), (0x21d2, 0x21cf), (0x21d4, 0x21ce), (0x2203, 0x2204),
    (0x2208, 0x2209), (0x220b, 0x220c), (0x2223, 0x2224), (0x2225, 0x2226), (0x223c, 0x2241),
    (0x2243, 0x2244), (0x2245, 0x2247), (0x2248, 0x2249), (0x224d, 0x226d), (0x2261, 0x2262),
    (0x2264, 0x2270), (0x2265, 0x2271), (0x2272, 0x2274), (0x2273, 0x2275), (0x2276, 0x2278),
    (0x2277, 0x2279), (0x227a, 0x2280), (0x227b, 0x2281), (0x227c, 0x22e0), (0x227d, 0x22e1),
    (0x2282, 0x2284), (0x2283, 0x2285), (0x2286, 0x2288), (0x2287, 0x2289), (0x2291, 0x22e2),
    (0x2292, 0x22e3), (0x22a2, 0x22ac), (0x22a8, 0x22ad), (0x22a9, 0x22ae), (0x22ab, 0x22af),
    (0x22b2, 0x22ea), (0x22b3, 0x22eb), (0x22b4, 0x22ec), (0x22b5, 0x22ed)]⟩,
  ⟨0x342, [(0x3b1, 0x1fb6), (0x3b7, 0x1fc6), (0x3b9, 0x1fd6), (0x3c5, 0x1fe6), (0x3c9, 0x1ff6),
    (0x3ca, 0x1fd7), (0x3cb, 0x1fe7), (0x1f00, 0x1f06), (0x1f01, 0x1f07), (0x1f20, 0x1f26),
    (0x1f21, 0x1f27), (0x1f30, 0x1f36), (0x1f31, 0x1f37), (0x1f50, 0x1f56), (0x1f51, 0x1f57),
    (0x1f60, 0x1f66), (0x1f61, 0x1f67)]⟩,
  ⟨0x653, [(0x627, 0x622)]⟩,
  ⟨0x654, [(0x627, 0x623), (0x648, 0x624), (0x64a, 0x626), (0x6c1, 0x6c2), (0x6d2, 0x6d3),
    (0x6d5, 0x6c0)]⟩,
  ⟨0x655, [(0x627, 0x625)]⟩,
  ⟨0x93c, [(0x928, 0x929), (0x930, 0x931), (0x933, 0x934)]⟩,
  ⟨0x9be, [(0x9c7, 0x9cb)]⟩,
  ⟨0x9d7, [(0x9c7, 0x9cc)]⟩,
  ⟨0xb3e, [(0xb47, 0xb4b)]⟩,
  ⟨0xb56, [(0xb47, 0xb48)]⟩,
  ⟨0xb57, [(0xb47, 0xb4c)]⟩,
  ⟨0xbbe, [(0xbc6, 0xbca), (0xbc7, 0xbcb)]⟩,
  ⟨0xbd7, [(0xb92, 0xb94), (0xbc6, 0xbcc)]⟩,
  ⟨0xc56, [(0xc46, 0xc48)]⟩,
  ⟨0xcc2, [(0xcc6, 0xcca)]⟩,
  ⟨0xcd5, [(0xcbf, 0xcc0), (0xcc6, 0xcc7), (0xcca, 0xccb)]⟩,
  ⟨0xcd6, [(0xcc6, 0xcc8)]⟩,
  ⟨0xd3e, [(0xd46, 0xd4a), (0xd47, 0xd4b)]⟩,
  ⟨0xd57, [(0xd46, 0xd4c)]⟩,
  ⟨0xdca, [(0xdd9, 0xdda), (0xddc, 0xddd)]⟩,
  ⟨0xdcf, [(0xdd9, 0xddc)]⟩,
  ⟨0xddf, [(0xdd9, 0xdde)]⟩,
  ⟨0x102e, [(0x1025, 0x1026)]⟩,
  ⟨0x1b35, [(0x1b05, 0x1b06), (0x1b07, 0x1b08), (0x1b09, 0x1b0a), (0x1b0b, 0x1b0c),
    (0x1b0d, 0x1b0e), (0x1b11, 0x1b12), (0x1b3a, 0x1b3b), (0x1b3c, 0x1b3d), (0x1b3e, 0x1b40),
    (0x1b3f, 0x1b41), (0x1b42, 0x1b43)]⟩,
  ⟨0x3099, [(0x3046, 0x3094), (0x304b, 0x304c), (0x304d, 0x304e), (0x304f, 0x3050),
    (0x3051, 0x3052), (0x3053, 0x3054), (0x3055, 0x3056), (0x3057, 0x3058), (0x3059, 0x305a),
    (0x305b, 0x305c), (0x305d, 0x305e), (0x305f, 0x3060), (0x3061, 0x3062), (0x3064, 0x3065),
    (0x3066, 0x3067), (0x3068, 0x3069), (0x306f, 0x3070), (0x3072, 0x3073), (0x3075, 0x3076),
    (0x3078, 0x3079), (0x307b, 0x307c), (0x309d, 0x309e), (0x30a6, 0x30f4), (0x30ab, 0x30ac),
    (0x30ad, 0x30ae), (0x30af, 0x30b0), (0x30b1, 0x30b2), (0x30b3, 0x30b4), (0x30b5, 0x30b6),
    (0x30b7, 0x30b8), (0x30b9, 0x30ba), (0x30bb, 0x30bc), (0x30bd, 0x30be), (0x30bf, 0x30c0),
    (0x30c1, 0x30c2), (0x30c4, 0x30c5), (0x30c6, 0x30c7), (0x30c8, 0x30c9), (0x30cf, 0x30d0),
    (0x30d2, 0x30d3), (0x30d5, 0x30d6), (0x30d8, 0x30d9), (0x30db, 0x30dc), (0x30ef, 0x30f7),
    (0x30f0, 0x30f8), (0x30f1, 0x30f9), (0x30f2, 0x30fa), (0x30fd, 0x30fe)]⟩,
  ⟨0x309a, [(0x306f, 0x3071), (0x3072, 0x3074), (0x3075, 0x3077), (0x3078, 0x307a),
    (0x307b, 0x307d), (0x30cf, 0x30d1), (0x30d2, 0x30d4), (0x30d5, 0x30d7), (0x30d8, 0x30da),
    (0x30db, 0x30dd)]⟩,
  ⟨0x110ba, [(0x11099, 0x1109a), (0x1109b, 0x1109c), (0x110a5, 0x110ab)]⟩,
  ⟨0x11127, [(0x11131, 0x1112e), (0x11132, 0x1112f)]⟩,
  ⟨0x1133e, [(0x11347, 0x1134b)]⟩,
  ⟨0x11357, [(0x11347, 0x1134c)]⟩,
  ⟨0x114b0, [(0x114b9, 0x114bc)]⟩,
  ⟨0x114ba, [(0x114b9, 0x114bb)]⟩,
  ⟨0x114bd, [(0x114b9, 0x114be)]⟩,
  ⟨0x115af, [(0x115b8, 0x115ba), (0x115b9, 0x115bb)]⟩,
  ⟨0x11930, [(0x11935, 0x11938)]⟩]

end Suppression.FileUrl
