import RepoBrowser.Text.Codes

/-!
# Characters in host names

The data of UTS #46 and of the rules for joiners and for text from right to left (Unicode 17).

* `shifts`, `replacements` — characters that stand for others in host names; those that are made
  the same by composition are not listed;
* `ignored`, `refused` — characters that are left out, and those that may not stand in a name;
* `marks` — marks, which cannot start a label;
* `rightToLeft`, `arabicNumbers`, `europeanNumbers`, `nonspacing`, `neutral` — what decides on the
  direction of a label; all other characters run from left to right;
* `joinsNext`, `joinsPrevious`, `transparent` — how letters are joined to their neighbours.

The ranges hold for characters that can stand in a name; others may be in them or not.
-/

namespace RepoBrowser.Http.Host

/-- Ranges of characters that stand for others: the first and the last, the step from one to the
next, and how far the others are behind them. -/
def shifts : List (Nat × Nat × Nat × Int) :=
  [(0x41, 0x5A, 1, 32), (0xC0, 0xD6, 1, 32), (0xD8, 0xDE, 1, 32), (0x100, 0x12E, 2, 1),
   (0x139, 0x13D, 2, 1), (0x141, 0x147, 2, 1), (0x14A, 0x176, 2, 1), (0x179, 0x17D, 2, 1),
   (0x1A0, 0x1A4, 2, 1), (0x1CD, 0x1DB, 2, 1), (0x1DE, 0x1EE, 2, 1), (0x1F8, 0x21E, 2, 1),
   (0x222, 0x232, 2, 1), (0x246, 0x24E, 2, 1), (0x388, 0x38A, 1, 37), (0x391, 0x3A1, 1, 32),
   (0x3A3, 0x3AB, 1, 32), (0x3D8, 0x3EE, 2, 1), (0x3FD, 0x3FF, 1, -130), (0x400, 0x40F, 1, 80),
   (0x410, 0x42F, 1, 32), (0x460, 0x480, 2, 1), (0x48A, 0x4BE, 2, 1), (0x4C1, 0x4CD, 2, 1),
   (0x4D0, 0x52E, 2, 1), (0x531, 0x556, 1, 48), (0x10A0, 0x10C5, 1, 7264), (0x13F8, 0x13FD, 1, -8),
   (0x1C90, 0x1CBA, 1, -3008), (0x1CBD, 0x1CBF, 1, -3008), (0x1D31, 0x1D39, 2, -7372),
   (0x1D34, 0x1D3A, 2, -7372), (0x1D5D, 0x1D5F, 1, -6571), (0x1DA4, 0x1DA6, 1, -6972),
   (0x1DAE, 0x1DB1, 1, -6972), (0x1DBC, 0x1DBE, 1, -6956), (0x1E00, 0x1E94, 2, 1),
   (0x1EA0, 0x1EFE, 2, 1), (0x1F08, 0x1F0F, 1, -8), (0x1F18, 0x1F1D, 1, -8),
   (0x1F28, 0x1F2F, 1, -8), (0x1F38, 0x1F3F, 1, -8), (0x1F48, 0x1F4D, 1, -8),
   (0x1F59, 0x1F5F, 2, -8), (0x1F68, 0x1F6F, 1, -8), (0x2074, 0x2079, 1, -8256),
   (0x2080, 0x2089, 1, -8272), (0x2096, 0x2099, 1, -8235), (0x2119, 0x211B, 1, -8361),
   (0x2135, 0x2138, 1, -7013), (0x2460, 0x2468, 1, -9263), (0x24B6, 0x24CF, 1, -9301),
   (0x24D0, 0x24E9, 1, -9327), (0x2C00, 0x2C2F, 1, 48), (0x2C67, 0x2C6B, 2, 1),
   (0x2C80, 0x2CE2, 2, 1), (0x3137, 0x3139, 1, -8244), (0x313A, 0x313F, 1, -8074),
   (0x3141, 0x3143, 1, -8251), (0x3145, 0x314E, 1, -8252), (0x314F, 0x3163, 1, -8174),
   (0x3178, 0x317C, 1, -8269), (0x3184, 0x3186, 1, -8237), (0x3263, 0x3265, 1, -8542),
   (0x3269, 0x326D, 1, -8539), (0x32E4, 0x32E9, 1, -538), (0x32EE, 0x32F2, 1, -528),
   (0x32F5, 0x32FA, 1, -525), (0x32FB, 0x32FE, 1, -524), (0xA640, 0xA66C, 2, 1),
   (0xA680, 0xA69A, 2, 1), (0xA722, 0xA72E, 2, 1), (0xA732, 0xA76E, 2, 1), (0xA77E, 0xA786, 2, 1),
   (0xA796, 0xA7A8, 2, 1), (0xA7B4, 0xA7C2, 2, 1), (0xA7CC, 0xA7DA, 2, 1),
   (0xAB70, 0xABBF, 1, -38864), (0xFB24, 0xFB26, 1, -62793), (0xFE41, 0xFE44, 1, -52789),
   (0xFF01, 0xFF20, 1, -65248), (0xFF21, 0xFF3A, 1, -65216), (0xFF3B, 0xFF5E, 1, -65248),
   (0xFF85, 0xFF8A, 1, -52923), (0xFF8F, 0xFF93, 1, -52913), (0xFF96, 0xFF9B, 1, -52910),
   (0xFFA7, 0xFFA9, 1, -61092), (0xFFAA, 0xFFAF, 1, -60922), (0xFFB1, 0xFFB3, 1, -61099),
   (0xFFB5, 0xFFBE, 1, -61100), (0xFFC2, 0xFFC7, 1, -61025), (0xFFCA, 0xFFCF, 1, -61027),
   (0xFFD2, 0xFFD7, 1, -61029), (0xFFDA, 0xFFDC, 1, -61031), (0xFFE9, 0xFFEC, 1, -56921),
   (0x10400, 0x10427, 1, 40), (0x104B0, 0x104D3, 1, 40), (0x10570, 0x10594, 2, 39),
   (0x10571, 0x10579, 2, 39), (0x1057D, 0x10589, 2, 39), (0x1058D, 0x10591, 2, 39),
   (0x107B6, 0x107B8, 1, -67062), (0x10C80, 0x10CB2, 1, 64), (0x10D50, 0x10D65, 1, 32),
   (0x118A0, 0x118BF, 1, 32), (0x16E40, 0x16E5F, 1, 32), (0x16EA0, 0x16EB8, 1, 27),
   (0x1CCD6, 0x1CCEF, 1, -117877), (0x1CCF0, 0x1CCF9, 1, -117952), (0x1D400, 0x1D419, 1, -119711),
   (0x1D41A, 0x1D433, 1, -119737), (0x1D434, 0x1D44D, 1, -119763), (0x1D44E, 0x1D466, 2, -119789),
   (0x1D44F, 0x1D453, 2, -119789), (0x1D457, 0x1D467, 2, -119789), (0x1D468, 0x1D481, 1, -119815),
   (0x1D482, 0x1D49B, 1, -119841), (0x1D4A9, 0x1D4AC, 1, -119867), (0x1D4AE, 0x1D4B5, 1, -119867),
   (0x1D4B6, 0x1D4B9, 1, -119893), (0x1D4BB, 0x1D4CF, 2, -119893), (0x1D4BE, 0x1D4C2, 2, -119893),
   (0x1D4C6, 0x1D4CE, 2, -119893), (0x1D4D0, 0x1D4E9, 1, -119919), (0x1D4EA, 0x1D503, 1, -119945),
   (0x1D505, 0x1D509, 2, -119971), (0x1D50D, 0x1D514, 1, -119971), (0x1D516, 0x1D51C, 1, -119971),
   (0x1D51E, 0x1D537, 1, -119997), (0x1D539, 0x1D53D, 2, -120023), (0x1D53C, 0x1D546, 2, -120023),
   (0x1D54A, 0x1D550, 1, -120023), (0x1D552, 0x1D56B, 1, -120049), (0x1D56C, 0x1D585, 1, -120075),
   (0x1D586, 0x1D59F, 1, -120101), (0x1D5A0, 0x1D5B9, 1, -120127), (0x1D5BA, 0x1D5D3, 1, -120153),
   (0x1D5D4, 0x1D5ED, 1, -120179), (0x1D5EE, 0x1D607, 1, -120205), (0x1D608, 0x1D621, 1, -120231),
   (0x1D622, 0x1D63B, 1, -120257), (0x1D63C, 0x1D655, 1, -120283), (0x1D656, 0x1D66F, 1, -120309),
   (0x1D670, 0x1D689, 1, -120335), (0x1D68A, 0x1D6A3, 1, -120361), (0x1D6A8, 0x1D6B8, 1, -119543),
   (0x1D6BA, 0x1D6C0, 1, -119543), (0x1D6C2, 0x1D6D2, 1, -119569), (0x1D6D4, 0x1D6DA, 1, -119569),
   (0x1D6E2, 0x1D6F2, 1, -119601), (0x1D6F4, 0x1D6FA, 1, -119601), (0x1D6FC, 0x1D70C, 1, -119627),
   (0x1D70E, 0x1D714, 1, -119627), (0x1D71C, 0x1D72C, 1, -119659), (0x1D72E, 0x1D734, 1, -119659),
   (0x1D736, 0x1D746, 1, -119685), (0x1D748, 0x1D74E, 1, -119685), (0x1D756, 0x1D766, 1, -119717),
   (0x1D768, 0x1D76E, 1, -119717), (0x1D770, 0x1D780, 1, -119743), (0x1D782, 0x1D788, 1, -119743),
   (0x1D790, 0x1D7A0, 1, -119775), (0x1D7A2, 0x1D7A8, 1, -119775), (0x1D7AA, 0x1D7BA, 1, -119801),
   (0x1D7BC, 0x1D7C2, 1, -119801), (0x1D7CE, 0x1D7D7, 1, -120734), (0x1D7D8, 0x1D7E1, 1, -120744),
   (0x1D7E2, 0x1D7EB, 1, -120754), (0x1D7EC, 0x1D7F5, 1, -120764), (0x1D7F6, 0x1D7FF, 1, -120774),
   (0x1E030, 0x1E038, 1, -121856), (0x1E039, 0x1E03B, 1, -121855), (0x1E03C, 0x1E046, 1, -121854),
   (0x1E051, 0x1E059, 1, -121889), (0x1E05F, 0x1E064, 1, -121884), (0x1E900, 0x1E921, 1, 34),
   (0x1EE0A, 0x1EE0D, 1, -124871), (0x1EE2A, 0x1EE2D, 1, -124903), (0x1EE8B, 0x1EE8D, 1, -124999),
   (0x1EEAB, 0x1EEAD, 1, -125031), (0x1F130, 0x1F149, 1, -127183), (0x1FBF0, 0x1FBF9, 1, -129984)]

/-- Characters that stand for others: the code point and those of the others. -/
def replacementCodes : List String :=
  ["a0 20,a8 20 308,aa 61,af 20 304,b2 32,b3 33,b4 20 301,b5 3bc,b8 20 327,b9 31,ba 6f",
   "bc 31 2044 34,bd 31 2044 32,be 33 2044 34,130 69 307,132 69 6a,133 69 6a,134 135,136 137",
   "13f 6c b7,140 6c b7,149 2bc 6e,178 ff,17f 73,181 253,182 183,184 185,186 254,187 188,189 256",
   "18a 257,18b 18c,18e 1dd,18f 259,190 25b,191 192,193 260,194 263,196 269,197 268,198 199",
   "19c 26f,19d 272,19f 275,1a6 280,1a7 1a8,1a9 283,1ac 1ad,1ae 288,1af 1b0,1b1 28a,1b2 28b",
   "1b3 1b4,1b5 1b6,1b7 292,1b8 1b9,1bc 1bd,1c4 64 17e,1c5 64 17e,1c6 64 17e,1c7 6c 6a,1c8 6c 6a",
   "1c9 6c 6a,1ca 6e 6a,1cb 6e 6a,1cc 6e 6a,1f1 64 7a,1f2 64 7a,1f3 64 7a,1f4 1f5,1f6 195",
   "1f7 1bf,220 19e,23a 2c65,23b 23c,23d 19a,23e 2c66,241 242,243 180,244 289,245 28c,2b0 68",
   "2b1 266,2b2 6a,2b3 72,2b4 279,2b5 27b,2b6 281,2b7 77,2b8 79,2d8 20 306,2d9 20 307,2da 20 30a",
   "2db 20 328,2dc 20 303,2dd 20 30b,2e0 263,2e1 6c,2e2 73,2e3 78,2e4 295,345 3b9,370 371",
   "372 373,376 377,37a 20 3b9,37f 3f3,384 20 301,385 20 308 301,386 3ac,38c 3cc,38e 3cd,38f 3ce",
   "3cf 3d7,3d0 3b2,3d1 3b8,3d2 3c5,3d3 3cd,3d4 3cb,3d5 3c6,3d6 3c0,3f0 3ba,3f1 3c1,3f2 3c3",
   "3f4 3b8,3f5 3b5,3f7 3f8,3f9 3c3,3fa 3fb,4c0 4cf,587 565 582,675 627 674,676 648 674",
   "677 6c7 674,678 64a 674,e33 e4d e32,eb3 ecd eb2,edc eab e99,edd eab ea1,f0c f0b",
   "f77 fb2 f71 f80,f79 fb3 f71 f80,10c7 2d27,10cd 2d2d,10fc 10dc,1c80 432,1c81 434,1c82 43e",
   "1c83 441,1c84 442,1c85 442,1c86 44a,1c87 463,1c88 a64b,1c89 1c8a,1d2c 61,1d2d e6,1d2e 62",
   "1d30 64,1d32 1dd,1d3c 6f,1d3d 223,1d3e 70,1d3f 72,1d40 74,1d41 75,1d42 77,1d43 61,1d44 250",
   "1d45 251,1d46 1d02,1d47 62,1d48 64,1d49 65,1d4a 259,1d4b 25b,1d4c 25c,1d4d 67,1d4f 6b",
   "1d50 6d,1d51 14b,1d52 6f,1d53 254,1d54 1d16,1d55 1d17,1d56 70,1d57 74,1d58 75,1d59 1d1d",
   "1d5a 26f,1d5b 76,1d5c 1d25,1d60 3c6,1d61 3c7,1d62 69,1d63 72,1d64 75,1d65 76,1d66 3b2",
   "1d67 3b3,1d68 3c1,1d69 3c6,1d6a 3c7,1d78 43d,1d9b 252,1d9c 63,1d9d 255,1d9e f0,1d9f 25c",
   "1da0 66,1da1 25f,1da2 261,1da3 265,1da7 1d7b,1da8 29d,1da9 26d,1daa 1d85,1dab 29f,1dac 271",
   "1dad 270,1db2 278,1db3 282,1db4 283,1db5 1ab,1db6 289,1db7 28a,1db8 1d1c,1db9 28b,1dba 28c",
   "1dbb 7a,1dbf 3b8,1e9a 61 2be,1e9b 1e61,1e9e df,1f80 1f00 3b9,1f81 1f01 3b9,1f82 1f02 3b9",
   "1f83 1f03 3b9,1f84 1f04 3b9,1f85 1f05 3b9,1f86 1f06 3b9,1f87 1f07 3b9,1f88 1f00 3b9",
   "1f89 1f01 3b9,1f8a 1f02 3b9,1f8b 1f03 3b9,1f8c 1f04 3b9,1f8d 1f05 3b9,1f8e 1f06 3b9",
   "1f8f 1f07 3b9,1f90 1f20 3b9,1f91 1f21 3b9,1f92 1f22 3b9,1f93 1f23 3b9,1f94 1f24 3b9",
   "1f95 1f25 3b9,1f96 1f26 3b9,1f97 1f27 3b9,1f98 1f20 3b9,1f99 1f21 3b9,1f9a 1f22 3b9",
   "1f9b 1f23 3b9,1f9c 1f24 3b9,1f9d 1f25 3b9,1f9e 1f26 3b9,1f9f 1f27 3b9,1fa0 1f60 3b9",
   "1fa1 1f61 3b9,1fa2 1f62 3b9,1fa3 1f63 3b9,1fa4 1f64 3b9,1fa5 1f65 3b9,1fa6 1f66 3b9",
   "1fa7 1f67 3b9,1fa8 1f60 3b9,1fa9 1f61 3b9,1faa 1f62 3b9,1fab 1f63 3b9,1fac 1f64 3b9",
   "1fad 1f65 3b9,1fae 1f66 3b9,1faf 1f67 3b9,1fb2 1f70 3b9,1fb3 3b1 3b9,1fb4 3ac 3b9",
   "1fb7 1fb6 3b9,1fb8 1fb0,1fb9 1fb1,1fba 1f70,1fbb 3ac,1fbc 3b1 3b9,1fbd 20 313,1fbf 20 313",
   "1fc0 20 342,1fc1 20 308 342,1fc2 1f74 3b9,1fc3 3b7 3b9,1fc4 3ae 3b9,1fc7 1fc6 3b9,1fc8 1f72",
   "1fc9 3ad,1fca 1f74,1fcb 3ae,1fcc 3b7 3b9,1fcd 20 313 300,1fce 20 313 301,1fcf 20 313 342",
   "1fd8 1fd0,1fd9 1fd1,1fda 1f76,1fdb 3af,1fdd 20 314 300,1fde 20 314 301,1fdf 20 314 342",
   "1fe8 1fe0,1fe9 1fe1,1fea 1f7a,1feb 3cd,1fec 1fe5,1fed 20 308 300,1fee 20 308 301",
   "1ff2 1f7c 3b9,1ff3 3c9 3b9,1ff4 3ce 3b9,1ff7 1ff6 3b9,1ff8 1f78,1ff9 3cc,1ffa 1f7c,1ffb 3ce",
   "1ffc 3c9 3b9,1ffd 20 301,1ffe 20 314,2000 20,2001 20,2002 20,2003 20,2004 20,2005 20,2006 20",
   "2007 20,2008 20,2009 20,200a 20,2011 2010,2017 20 333,202f 20,2033 2032 2032",
   "2034 2032 2032 2032,2036 2035 2035,2037 2035 2035 2035,203c 21 21,203e 20 305,2047 3f 3f",
   "2048 3f 21,2049 21 3f,2057 2032 2032 2032 2032,205f 20,2070 30,2071 69,207a 2b,207b 2212",
   "207c 3d,207d 28,207e 29,207f 6e,208a 2b,208b 2212,208c 3d,208d 28,208e 29,2090 61,2091 65",
   "2092 6f,2093 78,2094 259,2095 68,209a 70,209b 73,209c 74,20a8 72 73,2100 61 2f 63",
   "2101 61 2f 73,2102 63,2103 b0 63,2105 63 2f 6f,2106 63 2f 75,2107 25b,2109 b0 66,210a 67",
   "210b 68,210c 68,210d 68,210e 68,210f 127,2110 69,2111 69,2112 6c,2113 6c,2115 6e,2116 6e 6f",
   "211c 72,211d 72,2120 73 6d,2121 74 65 6c,2122 74 6d,2124 7a,2126 3c9,2128 7a,212a 6b,212b e5",
   "212c 62,212d 63,212f 65,2130 65,2131 66,2132 214e,2133 6d,2134 6f,2139 69,213b 66 61 78",
   "213c 3c0,213d 3b3,213e 3b3,213f 3c0,2140 2211,2145 64,2146 64,2147 65,2148 69,2149 6a",
   "2150 31 2044 37,2151 31 2044 39,2152 31 2044 31 30,2153 31 2044 33,2154 32 2044 33",
   "2155 31 2044 35,2156 32 2044 35,2157 33 2044 35,2158 34 2044 35,2159 31 2044 36",
   "215a 35 2044 36,215b 31 2044 38,215c 33 2044 38,215d 35 2044 38,215e 37 2044 38,215f 31 2044",
   "2160 69,2161 69 69,2162 69 69 69,2163 69 76,2164 76,2165 76 69,2166 76 69 69",
   "2167 76 69 69 69,2168 69 78,2169 78,216a 78 69,216b 78 69 69,216c 6c,216d 63,216e 64,216f 6d",
   "2170 69,2171 69 69,2172 69 69 69,2173 69 76,2174 76,2175 76 69,2176 76 69 69",
   "2177 76 69 69 69,2178 69 78,2179 78,217a 78 69,217b 78 69 69,217c 6c,217d 63,217e 64,217f 6d",
   "2183 2184,2189 30 2044 33,222c 222b 222b,222d 222b 222b 222b,222f 222e 222e",
   "2230 222e 222e 222e,2469 31 30,246a 31 31,246b 31 32,246c 31 33,246d 31 34,246e 31 35",
   "246f 31 36,2470 31 37,2471 31 38,2472 31 39,2473 32 30,2474 28 31 29,2475 28 32 29",
   "2476 28 33 29,2477 28 34 29,2478 28 35 29,2479 28 36 29,247a 28 37 29,247b 28 38 29",
   "247c 28 39 29,247d 28 31 30 29,247e 28 31 31 29,247f 28 31 32 29,2480 28 31 33 29",
   "2481 28 31 34 29,2482 28 31 35 29,2483 28 31 36 29,2484 28 31 37 29,2485 28 31 38 29",
   "2486 28 31 39 29,2487 28 32 30 29,249c 28 61 29,249d 28 62 29,249e 28 63 29,249f 28 64 29",
   "24a0 28 65 29,24a1 28 66 29,24a2 28 67 29,24a3 28 68 29,24a4 28 69 29,24a5 28 6a 29",
   "24a6 28 6b 29,24a7 28 6c 29,24a8 28 6d 29,24a9 28 6e 29,24aa 28 6f 29,24ab 28 70 29",
   "24ac 28 71 29,24ad 28 72 29,24ae 28 73 29,24af 28 74 29,24b0 28 75 29,24b1 28 76 29",
   "24b2 28 77 29,24b3 28 78 29,24b4 28 79 29,24b5 28 7a 29,24ea 30,2a0c 222b 222b 222b 222b",
   "2a74 3a 3a 3d,2a75 3d 3d,2a76 3d 3d 3d,2c60 2c61,2c62 26b,2c63 1d7d,2c64 27d,2c6d 251",
   "2c6e 271,2c6f 250,2c70 252,2c72 2c73,2c75 2c76,2c7c 6a,2c7d 76,2c7e 23f,2c7f 240,2ceb 2cec",
   "2ced 2cee,2cf2 2cf3,2d6f 2d61,2e9f 6bcd,2ef3 9f9f,2f00 4e00,2f01 4e28,2f02 4e36,2f03 4e3f",
   "2f04 4e59,2f05 4e85,2f06 4e8c,2f07 4ea0,2f08 4eba,2f09 513f,2f0a 5165,2f0b 516b,2f0c 5182",
   "2f0d 5196,2f0e 51ab,2f0f 51e0,2f10 51f5,2f11 5200,2f12 529b,2f13 52f9,2f14 5315,2f15 531a",
   "2f16 5338,2f17 5341,2f18 535c,2f19 5369,2f1a 5382,2f1b 53b6,2f1c 53c8,2f1d 53e3,2f1e 56d7",
   "2f1f 571f,2f20 58eb,2f21 5902,2f22 590a,2f23 5915,2f24 5927,2f25 5973,2f26 5b50,2f27 5b80",
   "2f28 5bf8,2f29 5c0f,2f2a 5c22,2f2b 5c38,2f2c 5c6e,2f2d 5c71,2f2e 5ddb,2f2f 5de5,2f30 5df1",
   "2f31 5dfe,2f32 5e72,2f33 5e7a,2f34 5e7f,2f35 5ef4,2f36 5efe,2f37 5f0b,2f38 5f13,2f39 5f50",
   "2f3a 5f61,2f3b 5f73,2f3c 5fc3,2f3d 6208,2f3e 6236,2f3f 624b,2f40 652f,2f41 6534,2f42 6587",
   "2f43 6597,2f44 65a4,2f45 65b9,2f46 65e0,2f47 65e5,2f48 66f0,2f49 6708,2f4a 6728,2f4b 6b20",
   "2f4c 6b62,2f4d 6b79,2f4e 6bb3,2f4f 6bcb,2f50 6bd4,2f51 6bdb,2f52 6c0f,2f53 6c14,2f54 6c34",
   "2f55 706b,2f56 722a,2f57 7236,2f58 723b,2f59 723f,2f5a 7247,2f5b 7259,2f5c 725b,2f5d 72ac",
   "2f5e 7384,2f5f 7389,2f60 74dc,2f61 74e6,2f62 7518,2f63 751f,2f64 7528,2f65 7530,2f66 758b",
   "2f67 7592,2f68 7676,2f69 767d,2f6a 76ae,2f6b 76bf,2f6c 76ee,2f6d 77db,2f6e 77e2,2f6f 77f3",
   "2f70 793a,2f71 79b8,2f72 79be,2f73 7a74,2f74 7acb,2f75 7af9,2f76 7c73,2f77 7cf8,2f78 7f36",
   "2f79 7f51,2f7a 7f8a,2f7b 7fbd,2f7c 8001,2f7d 800c,2f7e 8012,2f7f 8033,2f80 807f,2f81 8089",
   "2f82 81e3,2f83 81ea,2f84 81f3,2f85 81fc,2f86 820c,2f87 821b,2f88 821f,2f89 826e,2f8a 8272",
   "2f8b 8278,2f8c 864d,2f8d 866b,2f8e 8840,2f8f 884c,2f90 8863,2f91 897e,2f92 898b,2f93 89d2",
   "2f94 8a00,2f95 8c37,2f96 8c46,2f97 8c55,2f98 8c78,2f99 8c9d,2f9a 8d64,2f9b 8d70,2f9c 8db3",
   "2f9d 8eab,2f9e 8eca,2f9f 8f9b,2fa0 8fb0,2fa1 8fb5,2fa2 9091,2fa3 9149,2fa4 91c6,2fa5 91cc",
   "2fa6 91d1,2fa7 9577,2fa8 9580,2fa9 961c,2faa 96b6,2fab 96b9,2fac 96e8,2fad 9751,2fae 975e",
   "2faf 9762,2fb0 9769,2fb1 97cb,2fb2 97ed,2fb3 97f3,2fb4 9801,2fb5 98a8,2fb6 98db,2fb7 98df",
   "2fb8 9996,2fb9 9999,2fba 99ac,2fbb 9aa8,2fbc 9ad8,2fbd 9adf,2fbe 9b25,2fbf 9b2f,2fc0 9b32",
   "2fc1 9b3c,2fc2 9b5a,2fc3 9ce5,2fc4 9e75,2fc5 9e7f,2fc6 9ea5,2fc7 9ebb,2fc8 9ec3,2fc9 9ecd",
   "2fca 9ed1,2fcb 9ef9,2fcc 9efd,2fcd 9f0e,2fce 9f13,2fcf 9f20,2fd0 9f3b,2fd1 9f4a,2fd2 9f52",
   "2fd3 9f8d,2fd4 9f9c,2fd5 9fa0,3000 20,3002 2e,3036 3012,3038 5341,3039 5344,303a 5345",
   "309b 20 3099,309c 20 309a,309f 3088 308a,30ff 30b3 30c8,3131 1100,3132 1101,3133 11aa",
   "3134 1102,3135 11ac,3136 11ad,3140 111a,3144 1121,3165 1114,3166 1115,3167 11c7,3168 11c8",
   "3169 11cc,316a 11ce,316b 11d3,316c 11d7,316d 11d9,316e 111c,316f 11dd,3170 11df,3171 111d",
   "3172 111e,3173 1120,3174 1122,3175 1123,3176 1127,3177 1129,317d 1132,317e 1136,317f 1140",
   "3180 1147,3181 114c,3182 11f1,3183 11f2,3187 1184,3188 1185,3189 1188,318a 1191,318b 1192",
   "318c 1194,318d 119e,318e 11a1,3192 4e00,3193 4e8c,3194 4e09,3195 56db,3196 4e0a,3197 4e2d",
   "3198 4e0b,3199 7532,319a 4e59,319b 4e19,319c 4e01,319d 5929,319e 5730,319f 4eba",
   "3200 28 1100 29,3201 28 1102 29,3202 28 1103 29,3203 28 1105 29,3204 28 1106 29",
   "3205 28 1107 29,3206 28 1109 29,3207 28 110b 29,3208 28 110c 29,3209 28 110e 29",
   "320a 28 110f 29,320b 28 1110 29,320c 28 1111 29,320d 28 1112 29,320e 28 ac00 29",
   "320f 28 b098 29,3210 28 b2e4 29,3211 28 b77c 29,3212 28 b9c8 29,3213 28 bc14 29",
   "3214 28 c0ac 29,3215 28 c544 29,3216 28 c790 29,3217 28 cc28 29,3218 28 ce74 29",
   "3219 28 d0c0 29,321a 28 d30c 29,321b 28 d558 29,321c 28 c8fc 29,321d 28 c624 c804 29",
   "321e 28 c624 d6c4 29,3220 28 4e00 29,3221 28 4e8c 29,3222 28 4e09 29,3223 28 56db 29",
   "3224 28 4e94 29,3225 28 516d 29,3226 28 4e03 29,3227 28 516b 29,3228 28 4e5d 29",
   "3229 28 5341 29,322a 28 6708 29,322b 28 706b 29,322c 28 6c34 29,322d 28 6728 29",
   "322e 28 91d1 29,322f 28 571f 29,3230 28 65e5 29,3231 28 682a 29,3232 28 6709 29",
   "3233 28 793e 29,3234 28 540d 29,3235 28 7279 29,3236 28 8ca1 29,3237 28 795d 29",
   "3238 28 52b4 29,3239 28 4ee3 29,323a 28 547c 29,323b 28 5b66 29,323c 28 76e3 29",
   "323d 28 4f01 29,323e 28 8cc7 29,323f 28 5354 29,3240 28 796d 29,3241 28 4f11 29",
   "3242 28 81ea 29,3243 28 81f3 29,3244 554f,3245 5e7c,3246 6587,3247 7b8f,3250 70 74 65",
   "3251 32 31,3252 32 32,3253 32 33,3254 32 34,3255 32 35,3256 32 36,3257 32 37,3258 32 38",
   "3259 32 39,325a 33 30,325b 33 31,325c 33 32,325d 33 33,325e 33 34,325f 33 35,3260 1100",
   "3261 1102,3262 1103,3266 1109,3267 110b,3268 110c,326e ac00,326f b098,3270 b2e4,3271 b77c",
   "3272 b9c8,3273 bc14,3274 c0ac,3275 c544,3276 c790,3277 cc28,3278 ce74,3279 d0c0,327a d30c",
   "327b d558,327c cc38 ace0,327d c8fc c758,327e c6b0,3280 4e00,3281 4e8c,3282 4e09,3283 56db",
   "3284 4e94,3285 516d,3286 4e03,3287 516b,3288 4e5d,3289 5341,328a 6708,328b 706b,328c 6c34",
   "328d 6728,328e 91d1,328f 571f,3290 65e5,3291 682a,3292 6709,3293 793e,3294 540d,3295 7279",
   "3296 8ca1,3297 795d,3298 52b4,3299 79d8,329a 7537,329b 5973,329c 9069,329d 512a,329e 5370",
   "329f 6ce8,32a0 9805,32a1 4f11,32a2 5199,32a3 6b63,32a4 4e0a,32a5 4e2d,32a6 4e0b,32a7 5de6",
   "32a8 53f3,32a9 533b,32aa 5b97,32ab 5b66,32ac 76e3,32ad 4f01,32ae 8cc7,32af 5354,32b0 591c",
   "32b1 33 36,32b2 33 37,32b3 33 38,32b4 33 39,32b5 34 30,32b6 34 31,32b7 34 32,32b8 34 33",
   "32b9 34 34,32ba 34 35,32bb 34 36,32bc 34 37,32bd 34 38,32be 34 39,32bf 35 30,32c0 31 6708",
   "32c1 32 6708,32c2 33 6708,32c3 34 6708,32c4 35 6708,32c5 36 6708,32c6 37 6708,32c7 38 6708",
   "32c8 39 6708,32c9 31 30 6708,32ca 31 31 6708,32cb 31 32 6708,32cc 68 67,32cd 65 72 67",
   "32ce 65 76,32cf 6c 74 64,32d0 30a2,32d1 30a4,32d2 30a6,32d3 30a8,32d4 30aa,32d5 30ab",
   "32d6 30ad,32d7 30af,32d8 30b1,32d9 30b3,32da 30b5,32db 30b7,32dc 30b9,32dd 30bb,32de 30bd",
   "32df 30bf,32e0 30c1,32e1 30c4,32e2 30c6,32e3 30c8,32ea 30d2,32eb 30d5,32ec 30d8,32ed 30db",
   "32f3 30e4,32f4 30e6,32ff 4ee4 548c,3300 30a2 30d1 30fc 30c8,3301 30a2 30eb 30d5 30a1",
   "3302 30a2 30f3 30da 30a2,3303 30a2 30fc 30eb,3304 30a4 30cb 30f3 30b0,3305 30a4 30f3 30c1",
   "3306 30a6 30a9 30f3,3307 30a8 30b9 30af 30fc 30c9,3308 30a8 30fc 30ab 30fc",
   "3309 30aa 30f3 30b9,330a 30aa 30fc 30e0,330b 30ab 30a4 30ea,330c 30ab 30e9 30c3 30c8",
   "330d 30ab 30ed 30ea 30fc,330e 30ac 30ed 30f3,330f 30ac 30f3 30de,3310 30ae 30ac",
   "3311 30ae 30cb 30fc,3312 30ad 30e5 30ea 30fc,3313 30ae 30eb 30c0 30fc,3314 30ad 30ed",
   "3315 30ad 30ed 30b0 30e9 30e0,3316 30ad 30ed 30e1 30fc 30c8 30eb",
   "3317 30ad 30ed 30ef 30c3 30c8,3318 30b0 30e9 30e0,3319 30b0 30e9 30e0 30c8 30f3",
   "331a 30af 30eb 30bc 30a4 30ed,331b 30af 30ed 30fc 30cd,331c 30b1 30fc 30b9",
   "331d 30b3 30eb 30ca,331e 30b3 30fc 30dd,331f 30b5 30a4 30af 30eb",
   "3320 30b5 30f3 30c1 30fc 30e0,3321 30b7 30ea 30f3 30b0,3322 30bb 30f3 30c1",
   "3323 30bb 30f3 30c8,3324 30c0 30fc 30b9,3325 30c7 30b7,3326 30c9 30eb,3327 30c8 30f3",
   "3328 30ca 30ce,3329 30ce 30c3 30c8,332a 30cf 30a4 30c4,332b 30d1 30fc 30bb 30f3 30c8",
   "332c 30d1 30fc 30c4,332d 30d0 30fc 30ec 30eb,332e 30d4 30a2 30b9 30c8 30eb",
   "332f 30d4 30af 30eb,3330 30d4 30b3,3331 30d3 30eb,3332 30d5 30a1 30e9 30c3 30c9",
   "3333 30d5 30a3 30fc 30c8,3334 30d6 30c3 30b7 30a7 30eb,3335 30d5 30e9 30f3",
   "3336 30d8 30af 30bf 30fc 30eb,3337 30da 30bd,3338 30da 30cb 30d2,3339 30d8 30eb 30c4",
   "333a 30da 30f3 30b9,333b 30da 30fc 30b8,333c 30d9 30fc 30bf,333d 30dd 30a4 30f3 30c8",
   "333e 30dc 30eb 30c8,333f 30db 30f3,3340 30dd 30f3 30c9,3341 30db 30fc 30eb",
   "3342 30db 30fc 30f3,3343 30de 30a4 30af 30ed,3344 30de 30a4 30eb,3345 30de 30c3 30cf",
   "3346 30de 30eb 30af,3347 30de 30f3 30b7 30e7 30f3,3348 30df 30af 30ed 30f3,3349 30df 30ea",
   "334a 30df 30ea 30d0 30fc 30eb,334b 30e1 30ac,334c 30e1 30ac 30c8 30f3",
   "334d 30e1 30fc 30c8 30eb,334e 30e4 30fc 30c9,334f 30e4 30fc 30eb,3350 30e6 30a2 30f3",
   "3351 30ea 30c3 30c8 30eb,3352 30ea 30e9,3353 30eb 30d4 30fc,3354 30eb 30fc 30d6 30eb",
   "3355 30ec 30e0,3356 30ec 30f3 30c8 30b2 30f3,3357 30ef 30c3 30c8,3358 30 70b9,3359 31 70b9",
   "335a 32 70b9,335b 33 70b9,335c 34 70b9,335d 35 70b9,335e 36 70b9,335f 37 70b9,3360 38 70b9",
   "3361 39 70b9,3362 31 30 70b9,3363 31 31 70b9,3364 31 32 70b9,3365 31 33 70b9,3366 31 34 70b9",
   "3367 31 35 70b9,3368 31 36 70b9,3369 31 37 70b9,336a 31 38 70b9,336b 31 39 70b9",
   "336c 32 30 70b9,336d 32 31 70b9,336e 32 32 70b9,336f 32 33 70b9,3370 32 34 70b9",
   "3371 68 70 61,3372 64 61,3373 61 75,3374 62 61 72,3375 6f 76,3376 70 63,3377 64 6d",
   "3378 64 6d 32,3379 64 6d 33,337a 69 75,337b 5e73 6210,337c 662d 548c,337d 5927 6b63",
   "337e 660e 6cbb,337f 682a 5f0f 4f1a 793e,3380 70 61,3381 6e 61,3382 3bc 61,3383 6d 61",
   "3384 6b 61,3385 6b 62,3386 6d 62,3387 67 62,3388 63 61 6c,3389 6b 63 61 6c,338a 70 66",
   "338b 6e 66,338c 3bc 66,338d 3bc 67,338e 6d 67,338f 6b 67,3390 68 7a,3391 6b 68 7a",
   "3392 6d 68 7a,3393 67 68 7a,3394 74 68 7a,3395 3bc 6c,3396 6d 6c,3397 64 6c,3398 6b 6c",
   "3399 66 6d,339a 6e 6d,339b 3bc 6d,339c 6d 6d,339d 63 6d,339e 6b 6d,339f 6d 6d 32",
   "33a0 63 6d 32,33a1 6d 32,33a2 6b 6d 32,33a3 6d 6d 33,33a4 63 6d 33,33a5 6d 33,33a6 6b 6d 33",
   "33a7 6d 2215 73,33a8 6d 2215 73 32,33a9 70 61,33aa 6b 70 61,33ab 6d 70 61,33ac 67 70 61",
   "33ad 72 61 64,33ae 72 61 64 2215 73,33af 72 61 64 2215 73 32,33b0 70 73,33b1 6e 73",
   "33b2 3bc 73,33b3 6d 73,33b4 70 76,33b5 6e 76,33b6 3bc 76,33b7 6d 76,33b8 6b 76,33b9 6d 76",
   "33ba 70 77,33bb 6e 77,33bc 3bc 77,33bd 6d 77,33be 6b 77,33bf 6d 77,33c0 6b 3c9,33c1 6d 3c9",
   "33c3 62 71,33c4 63 63,33c5 63 64,33c6 63 2215 6b 67,33c8 64 62,33c9 67 79,33ca 68 61",
   "33cb 68 70,33cc 69 6e,33cd 6b 6b,33ce 6b 6d,33cf 6b 74,33d0 6c 6d,33d1 6c 6e,33d2 6c 6f 67",
   "33d3 6c 78,33d4 6d 62,33d5 6d 69 6c,33d6 6d 6f 6c,33d7 70 68,33d9 70 70 6d,33da 70 72",
   "33db 73 72,33dc 73 76,33dd 77 62,33de 76 2215 6d,33df 61 2215 6d,33e0 31 65e5,33e1 32 65e5",
   "33e2 33 65e5,33e3 34 65e5,33e4 35 65e5,33e5 36 65e5,33e6 37 65e5,33e7 38 65e5,33e8 39 65e5",
   "33e9 31 30 65e5,33ea 31 31 65e5,33eb 31 32 65e5,33ec 31 33 65e5,33ed 31 34 65e5",
   "33ee 31 35 65e5,33ef 31 36 65e5,33f0 31 37 65e5,33f1 31 38 65e5,33f2 31 39 65e5",
   "33f3 32 30 65e5,33f4 32 31 65e5,33f5 32 32 65e5,33f6 32 33 65e5,33f7 32 34 65e5",
   "33f8 32 35 65e5,33f9 32 36 65e5,33fa 32 37 65e5,33fb 32 38 65e5,33fc 32 39 65e5",
   "33fd 33 30 65e5,33fe 33 31 65e5,33ff 67 61 6c,a69c 44a,a69d 44c,a770 a76f,a779 a77a",
   "a77b a77c,a77d 1d79,a78b a78c,a78d 265,a790 a791,a792 a793,a7aa 266,a7ab 25c,a7ac 261",
   "a7ad 26c,a7ae 26a,a7b0 29e,a7b1 287,a7b2 29d,a7b3 ab53,a7c4 a794,a7c5 282,a7c6 1d8e",
   "a7c7 a7c8,a7c9 a7ca,a7cb 264,a7dc 19b,a7f1 73,a7f2 63,a7f3 66,a7f4 71,a7f5 a7f6,a7f8 127",
   "a7f9 153,ab5c a727,ab5d ab37,ab5e 26b,ab5f ab52,ab69 28d,fb00 66 66,fb01 66 69,fb02 66 6c",
   "fb03 66 66 69,fb04 66 66 6c,fb05 73 74,fb06 73 74,fb13 574 576,fb14 574 565,fb15 574 56b",
   "fb16 57e 576,fb17 574 56d,fb20 5e2,fb21 5d0,fb22 5d3,fb23 5d4,fb27 5e8,fb28 5ea,fb29 2b",
   "fb4f 5d0 5dc,fb50 671,fb51 671,fb52 67b,fb53 67b,fb54 67b,fb55 67b,fb56 67e,fb57 67e",
   "fb58 67e,fb59 67e,fb5a 680,fb5b 680,fb5c 680,fb5d 680,fb5e 67a,fb5f 67a,fb60 67a,fb61 67a",
   "fb62 67f,fb63 67f,fb64 67f,fb65 67f,fb66 679,fb67 679,fb68 679,fb69 679,fb6a 6a4,fb6b 6a4",
   "fb6c 6a4,fb6d 6a4,fb6e 6a6,fb6f 6a6,fb70 6a6,fb71 6a6,fb72 684,fb73 684,fb74 684,fb75 684",
   "fb76 683,fb77 683,fb78 683,fb79 683,fb7a 686,fb7b 686,fb7c 686,fb7d 686,fb7e 687,fb7f 687",
   "fb80 687,fb81 687,fb82 68d,fb83 68d,fb84 68c,fb85 68c,fb86 68e,fb87 68e,fb88 688,fb89 688",
   "fb8a 698,fb8b 698,fb8c 691,fb8d 691,fb8e 6a9,fb8f 6a9,fb90 6a9,fb91 6a9,fb92 6af,fb93 6af",
   "fb94 6af,fb95 6af,fb96 6b3,fb97 6b3,fb98 6b3,fb99 6b3,fb9a 6b1,fb9b 6b1,fb9c 6b1,fb9d 6b1",
   "fb9e 6ba,fb9f 6ba,fba0 6bb,fba1 6bb,fba2 6bb,fba3 6bb,fba4 6c0,fba5 6c0,fba6 6c1,fba7 6c1",
   "fba8 6c1,fba9 6c1,fbaa 6be,fbab 6be,fbac 6be,fbad 6be,fbae 6d2,fbaf 6d2,fbb0 6d3,fbb1 6d3",
   "fbd3 6ad,fbd4 6ad,fbd5 6ad,fbd6 6ad,fbd7 6c7,fbd8 6c7,fbd9 6c6,fbda 6c6,fbdb 6c8,fbdc 6c8",
   "fbdd 6c7 674,fbde 6cb,fbdf 6cb,fbe0 6c5,fbe1 6c5,fbe2 6c9,fbe3 6c9,fbe4 6d0,fbe5 6d0",
   "fbe6 6d0,fbe7 6d0,fbe8 649,fbe9 649,fbea 626 627,fbeb 626 627,fbec 626 6d5,fbed 626 6d5",
   "fbee 626 648,fbef 626 648,fbf0 626 6c7,fbf1 626 6c7,fbf2 626 6c6,fbf3 626 6c6,fbf4 626 6c8",
   "fbf5 626 6c8,fbf6 626 6d0,fbf7 626 6d0,fbf8 626 6d0,fbf9 626 649,fbfa 626 649,fbfb 626 649",
   "fbfc 6cc,fbfd 6cc,fbfe 6cc,fbff 6cc,fc00 626 62c,fc01 626 62d,fc02 626 645,fc03 626 649",
   "fc04 626 64a,fc05 628 62c,fc06 628 62d,fc07 628 62e,fc08 628 645,fc09 628 649,fc0a 628 64a",
   "fc0b 62a 62c,fc0c 62a 62d,fc0d 62a 62e,fc0e 62a 645,fc0f 62a 649,fc10 62a 64a,fc11 62b 62c",
   "fc12 62b 645,fc13 62b 649,fc14 62b 64a,fc15 62c 62d,fc16 62c 645,fc17 62d 62c,fc18 62d 645",
   "fc19 62e 62c,fc1a 62e 62d,fc1b 62e 645,fc1c 633 62c,fc1d 633 62d,fc1e 633 62e,fc1f 633 645",
   "fc20 635 62d,fc21 635 645,fc22 636 62c,fc23 636 62d,fc24 636 62e,fc25 636 645,fc26 637 62d",
   "fc27 637 645,fc28 638 645,fc29 639 62c,fc2a 639 645,fc2b 63a 62c,fc2c 63a 645,fc2d 641 62c",
   "fc2e 641 62d,fc2f 641 62e,fc30 641 645,fc31 641 649,fc32 641 64a,fc33 642 62d,fc34 642 645",
   "fc35 642 649,fc36 642 64a,fc37 643 627,fc38 643 62c,fc39 643 62d,fc3a 643 62e,fc3b 643 644",
   "fc3c 643 645,fc3d 643 649,fc3e 643 64a,fc3f 644 62c,fc40 644 62d,fc41 644 62e,fc42 644 645",
   "fc43 644 649,fc44 644 64a,fc45 645 62c,fc46 645 62d,fc47 645 62e,fc48 645 645,fc49 645 649",
   "fc4a 645 64a,fc4b 646 62c,fc4c 646 62d,fc4d 646 62e,fc4e 646 645,fc4f 646 649,fc50 646 64a",
   "fc51 647 62c,fc52 647 645,fc53 647 649,fc54 647 64a,fc55 64a 62c,fc56 64a 62d,fc57 64a 62e",
   "fc58 64a 645,fc59 64a 649,fc5a 64a 64a,fc5b 630 670,fc5c 631 670,fc5d 649 670",
   "fc5e 20 64c 651,fc5f 20 64d 651,fc60 20 64e 651,fc61 20 64f 651,fc62 20 650 651",
   "fc63 20 651 670,fc64 626 631,fc65 626 632,fc66 626 645,fc67 626 646,fc68 626 649",
   "fc69 626 64a,fc6a 628 631,fc6b 628 632,fc6c 628 645,fc6d 628 646,fc6e 628 649,fc6f 628 64a",
   "fc70 62a 631,fc71 62a 632,fc72 62a 645,fc73 62a 646,fc74 62a 649,fc75 62a 64a,fc76 62b 631",
   "fc77 62b 632,fc78 62b 645,fc79 62b 646,fc7a 62b 649,fc7b 62b 64a,fc7c 641 649,fc7d 641 64a",
   "fc7e 642 649,fc7f 642 64a,fc80 643 627,fc81 643 644,fc82 643 645,fc83 643 649,fc84 643 64a",
   "fc85 644 645,fc86 644 649,fc87 644 64a,fc88 645 627,fc89 645 645,fc8a 646 631,fc8b 646 632",
   "fc8c 646 645,fc8d 646 646,fc8e 646 649,fc8f 646 64a,fc90 649 670,fc91 64a 631,fc92 64a 632",
   "fc93 64a 645,fc94 64a 646,fc95 64a 649,fc96 64a 64a,fc97 626 62c,fc98 626 62d,fc99 626 62e",
   "fc9a 626 645,fc9b 626 647,fc9c 628 62c,fc9d 628 62d,fc9e 628 62e,fc9f 628 645,fca0 628 647",
   "fca1 62a 62c,fca2 62a 62d,fca3 62a 62e,fca4 62a 645,fca5 62a 647,fca6 62b 645,fca7 62c 62d",
   "fca8 62c 645,fca9 62d 62c,fcaa 62d 645,fcab 62e 62c,fcac 62e 645,fcad 633 62c,fcae 633 62d",
   "fcaf 633 62e,fcb0 633 645,fcb1 635 62d,fcb2 635 62e,fcb3 635 645,fcb4 636 62c,fcb5 636 62d",
   "fcb6 636 62e,fcb7 636 645,fcb8 637 62d,fcb9 638 645,fcba 639 62c,fcbb 639 645,fcbc 63a 62c",
   "fcbd 63a 645,fcbe 641 62c,fcbf 641 62d,fcc0 641 62e,fcc1 641 645,fcc2 642 62d,fcc3 642 645",
   "fcc4 643 62c,fcc5 643 62d,fcc6 643 62e,fcc7 643 644,fcc8 643 645,fcc9 644 62c,fcca 644 62d",
   "fccb 644 62e,fccc 644 645,fccd 644 647,fcce 645 62c,fccf 645 62d,fcd0 645 62e,fcd1 645 645",
   "fcd2 646 62c,fcd3 646 62d,fcd4 646 62e,fcd5 646 645,fcd6 646 647,fcd7 647 62c,fcd8 647 645",
   "fcd9 647 670,fcda 64a 62c,fcdb 64a 62d,fcdc 64a 62e,fcdd 64a 645,fcde 64a 647,fcdf 626 645",
   "fce0 626 647,fce1 628 645,fce2 628 647,fce3 62a 645,fce4 62a 647,fce5 62b 645,fce6 62b 647",
   "fce7 633 645,fce8 633 647,fce9 634 645,fcea 634 647,fceb 643 644,fcec 643 645,fced 644 645",
   "fcee 646 645,fcef 646 647,fcf0 64a 645,fcf1 64a 647,fcf2 640 64e 651,fcf3 640 64f 651",
   "fcf4 640 650 651,fcf5 637 649,fcf6 637 64a,fcf7 639 649,fcf8 639 64a,fcf9 63a 649",
   "fcfa 63a 64a,fcfb 633 649,fcfc 633 64a,fcfd 634 649,fcfe 634 64a,fcff 62d 649,fd00 62d 64a",
   "fd01 62c 649,fd02 62c 64a,fd03 62e 649,fd04 62e 64a,fd05 635 649,fd06 635 64a,fd07 636 649",
   "fd08 636 64a,fd09 634 62c,fd0a 634 62d,fd0b 634 62e,fd0c 634 645,fd0d 634 631,fd0e 633 631",
   "fd0f 635 631,fd10 636 631,fd11 637 649,fd12 637 64a,fd13 639 649,fd14 639 64a,fd15 63a 649",
   "fd16 63a 64a,fd17 633 649,fd18 633 64a,fd19 634 649,fd1a 634 64a,fd1b 62d 649,fd1c 62d 64a",
   "fd1d 62c 649,fd1e 62c 64a,fd1f 62e 649,fd20 62e 64a,fd21 635 649,fd22 635 64a,fd23 636 649",
   "fd24 636 64a,fd25 634 62c,fd26 634 62d,fd27 634 62e,fd28 634 645,fd29 634 631,fd2a 633 631",
   "fd2b 635 631,fd2c 636 631,fd2d 634 62c,fd2e 634 62d,fd2f 634 62e,fd30 634 645,fd31 633 647",
   "fd32 634 647,fd33 637 645,fd34 633 62c,fd35 633 62d,fd36 633 62e,fd37 634 62c,fd38 634 62d",
   "fd39 634 62e,fd3a 637 645,fd3b 638 645,fd3c 627 64b,fd3d 627 64b,fd50 62a 62c 645",
   "fd51 62a 62d 62c,fd52 62a 62d 62c,fd53 62a 62d 645,fd54 62a 62e 645,fd55 62a 645 62c",
   "fd56 62a 645 62d,fd57 62a 645 62e,fd58 62c 645 62d,fd59 62c 645 62d,fd5a 62d 645 64a",
   "fd5b 62d 645 649,fd5c 633 62d 62c,fd5d 633 62c 62d,fd5e 633 62c 649,fd5f 633 645 62d",
   "fd60 633 645 62d,fd61 633 645 62c,fd62 633 645 645,fd63 633 645 645,fd64 635 62d 62d",
   "fd65 635 62d 62d,fd66 635 645 645,fd67 634 62d 645,fd68 634 62d 645,fd69 634 62c 64a",
   "fd6a 634 645 62e,fd6b 634 645 62e,fd6c 634 645 645,fd6d 634 645 645,fd6e 636 62d 649",
   "fd6f 636 62e 645,fd70 636 62e 645,fd71 637 645 62d,fd72 637 645 62d,fd73 637 645 645",
   "fd74 637 645 64a,fd75 639 62c 645,fd76 639 645 645,fd77 639 645 645,fd78 639 645 649",
   "fd79 63a 645 645,fd7a 63a 645 64a,fd7b 63a 645 649,fd7c 641 62e 645,fd7d 641 62e 645",
   "fd7e 642 645 62d,fd7f 642 645 645,fd80 644 62d 645,fd81 644 62d 64a,fd82 644 62d 649",
   "fd83 644 62c 62c,fd84 644 62c 62c,fd85 644 62e 645,fd86 644 62e 645,fd87 644 645 62d",
   "fd88 644 645 62d,fd89 645 62d 62c,fd8a 645 62d 645,fd8b 645 62d 64a,fd8c 645 62c 62d",
   "fd8d 645 62c 645,fd8e 645 62e 62c,fd8f 645 62e 645,fd92 645 62c 62e,fd93 647 645 62c",
   "fd94 647 645 645,fd95 646 62d 645,fd96 646 62d 649,fd97 646 62c 645,fd98 646 62c 645",
   "fd99 646 62c 649,fd9a 646 645 64a,fd9b 646 645 649,fd9c 64a 645 645,fd9d 64a 645 645",
   "fd9e 628 62e 64a,fd9f 62a 62c 64a,fda0 62a 62c 649,fda1 62a 62e 64a,fda2 62a 62e 649",
   "fda3 62a 645 64a,fda4 62a 645 649,fda5 62c 645 64a,fda6 62c 62d 649,fda7 62c 645 649",
   "fda8 633 62e 649,fda9 635 62d 64a,fdaa 634 62d 64a,fdab 636 62d 64a,fdac 644 62c 64a",
   "fdad 644 645 64a,fdae 64a 62d 64a,fdaf 64a 62c 64a,fdb0 64a 645 64a,fdb1 645 645 64a",
   "fdb2 642 645 64a,fdb3 646 62d 64a,fdb4 642 645 62d,fdb5 644 62d 645,fdb6 639 645 64a",
   "fdb7 643 645 64a,fdb8 646 62c 62d,fdb9 645 62e 64a,fdba 644 62c 645,fdbb 643 645 645",
   "fdbc 644 62c 645,fdbd 646 62c 62d,fdbe 62c 62d 64a,fdbf 62d 62c 64a,fdc0 645 62c 64a",
   "fdc1 641 645 64a,fdc2 628 62d 64a,fdc3 643 645 645,fdc4 639 62c 645,fdc5 635 645 645",
   "fdc6 633 62e 64a,fdc7 646 62c 64a,fdf0 635 644 6d2,fdf1 642 644 6d2,fdf2 627 644 644 647",
   "fdf3 627 643 628 631,fdf4 645 62d 645 62f,fdf5 635 644 639 645,fdf6 631 633 648 644",
   "fdf7 639 644 64a 647,fdf8 648 633 644 645,fdf9 635 644 649",
   "fdfa 635 644 649 20 627 644 644 647 20 639 644 64a 647 20 648 633 644 645",
   "fdfb 62c 644 20 62c 644 627 644 647,fdfc 631 6cc 627 644,fe10 2c,fe11 3001,fe13 3a,fe14 3b",
   "fe15 21,fe16 3f,fe17 3016,fe18 3017,fe31 2014,fe32 2013,fe33 5f,fe34 5f,fe35 28,fe36 29",
   "fe37 7b,fe38 7d,fe39 3014,fe3a 3015,fe3b 3010,fe3c 3011,fe3d 300a,fe3e 300b,fe3f 3008",
   "fe40 3009,fe47 5b,fe48 5d,fe49 20 305,fe4a 20 305,fe4b 20 305,fe4c 20 305,fe4d 5f,fe4e 5f",
   "fe4f 5f,fe50 2c,fe51 3001,fe54 3b,fe55 3a,fe56 3f,fe57 21,fe58 2014,fe59 28,fe5a 29,fe5b 7b",
   "fe5c 7d,fe5d 3014,fe5e 3015,fe5f 23,fe60 26,fe61 2a,fe62 2b,fe63 2d,fe64 3c,fe65 3e,fe66 3d",
   "fe68 5c,fe69 24,fe6a 25,fe6b 40,fe70 20 64b,fe71 640 64b,fe72 20 64c,fe74 20 64d,fe76 20 64e",
   "fe77 640 64e,fe78 20 64f,fe79 640 64f,fe7a 20 650,fe7b 640 650,fe7c 20 651,fe7d 640 651",
   "fe7e 20 652,fe7f 640 652,fe80 621,fe81 622,fe82 622,fe83 623,fe84 623,fe85 624,fe86 624",
   "fe87 625,fe88 625,fe89 626,fe8a 626,fe8b 626,fe8c 626,fe8d 627,fe8e 627,fe8f 628,fe90 628",
   "fe91 628,fe92 628,fe93 629,fe94 629,fe95 62a,fe96 62a,fe97 62a,fe98 62a,fe99 62b,fe9a 62b",
   "fe9b 62b,fe9c 62b,fe9d 62c,fe9e 62c,fe9f 62c,fea0 62c,fea1 62d,fea2 62d,fea3 62d,fea4 62d",
   "fea5 62e,fea6 62e,fea7 62e,fea8 62e,fea9 62f,feaa 62f,feab 630,feac 630,fead 631,feae 631",
   "feaf 632,feb0 632,feb1 633,feb2 633,feb3 633,feb4 633,feb5 634,feb6 634,feb7 634,feb8 634",
   "feb9 635,feba 635,febb 635,febc 635,febd 636,febe 636,febf 636,fec0 636,fec1 637,fec2 637",
   "fec3 637,fec4 637,fec5 638,fec6 638,fec7 638,fec8 638,fec9 639,feca 639,fecb 639,fecc 639",
   "fecd 63a,fece 63a,fecf 63a,fed0 63a,fed1 641,fed2 641,fed3 641,fed4 641,fed5 642,fed6 642",
   "fed7 642,fed8 642,fed9 643,feda 643,fedb 643,fedc 643,fedd 644,fede 644,fedf 644,fee0 644",
   "fee1 645,fee2 645,fee3 645,fee4 645,fee5 646,fee6 646,fee7 646,fee8 646,fee9 647,feea 647",
   "feeb 647,feec 647,feed 648,feee 648,feef 649,fef0 649,fef1 64a,fef2 64a,fef3 64a,fef4 64a",
   "fef5 644 622,fef6 644 622,fef7 644 623,fef8 644 623,fef9 644 625,fefa 644 625,fefb 644 627",
   "fefc 644 627,ff5f 2985,ff60 2986,ff61 2e,ff62 300c,ff63 300d,ff64 3001,ff65 30fb,ff66 30f2",
   "ff67 30a1,ff68 30a3,ff69 30a5,ff6a 30a7,ff6b 30a9,ff6c 30e3,ff6d 30e5,ff6e 30e7,ff6f 30c3",
   "ff70 30fc,ff71 30a2,ff72 30a4,ff73 30a6,ff74 30a8,ff75 30aa,ff76 30ab,ff77 30ad,ff78 30af",
   "ff79 30b1,ff7a 30b3,ff7b 30b5,ff7c 30b7,ff7d 30b9,ff7e 30bb,ff7f 30bd,ff80 30bf,ff81 30c1",
   "ff82 30c4,ff83 30c6,ff84 30c8,ff8b 30d2,ff8c 30d5,ff8d 30d8,ff8e 30db,ff94 30e4,ff95 30e6",
   "ff9c 30ef,ff9d 30f3,ff9e 3099,ff9f 309a,ffa1 1100,ffa2 1101,ffa3 11aa,ffa4 1102,ffa5 11ac",
   "ffa6 11ad,ffb0 111a,ffb4 1121,ffe0 a2,ffe1 a3,ffe2 ac,ffe3 20 304,ffe4 a6,ffe5 a5,ffe6 20a9",
   "ffe8 2502,ffed 25a0,ffee 25cb,10595 105bc,10781 2d0,10782 2d1,10783 e6,10784 299,10785 253",
   "10787 2a3,10788 ab66,10789 2a5,1078a 2a4,1078b 256,1078c 257,1078d 1d91,1078e 258,1078f 25e",
   "10790 2a9,10791 264,10792 262,10793 260,10794 29b,10795 127,10796 29c,10797 267,10798 284",
   "10799 2aa,1079a 2ab,1079b 26c,1079c 1df04,1079d a78e,1079e 26e,1079f 1df05,107a0 28e",
   "107a1 1df06,107a2 f8,107a3 276,107a4 277,107a5 71,107a6 27a,107a7 1df08,107a8 27d,107a9 27e",
   "107aa 280,107ab 2a8,107ac 2a6,107ad ab67,107ae 2a7,107af 288,107b0 2c71,107b2 28f,107b3 2a1",
   "107b4 2a2,107b5 298,107b9 1df0a,107ba 1df1e,1d49c 61,1d49e 63,1d49f 64,1d4a2 67,1d4a5 6a",
   "1d4a6 6b,1d504 61,1d508 65,1d50a 67,1d538 61,1d541 6a,1d543 6c,1d6a4 131,1d6a5 237,1d6b9 3b8",
   "1d6c1 2207,1d6d3 3c3,1d6db 2202,1d6dc 3b5,1d6dd 3b8,1d6de 3ba,1d6df 3c6,1d6e0 3c1,1d6e1 3c0",
   "1d6f3 3b8,1d6fb 2207,1d70d 3c3,1d715 2202,1d716 3b5,1d717 3b8,1d718 3ba,1d719 3c6,1d71a 3c1",
   "1d71b 3c0,1d72d 3b8,1d735 2207,1d747 3c3,1d74f 2202,1d750 3b5,1d751 3b8,1d752 3ba,1d753 3c6",
   "1d754 3c1,1d755 3c0,1d767 3b8,1d76f 2207,1d781 3c3,1d789 2202,1d78a 3b5,1d78b 3b8,1d78c 3ba",
   "1d78d 3c6,1d78e 3c1,1d78f 3c0,1d7a1 3b8,1d7a9 2207,1d7bb 3c3,1d7c3 2202,1d7c4 3b5,1d7c5 3b8",
   "1d7c6 3ba,1d7c7 3c6,1d7c8 3c1,1d7c9 3c0,1d7ca 3dd,1d7cb 3dd,1e047 44b,1e048 44d,1e049 44e",
   "1e04a a689,1e04b 4d9,1e04c 456,1e04d 458,1e04e 4e9,1e04f 4af,1e050 4cf,1e05a 43a,1e05b 43b",
   "1e05c 43e,1e05d 43f,1e05e 441,1e065 44a,1e066 44b,1e067 491,1e068 456,1e069 455,1e06a 45f",
   "1e06b 4ab,1e06c a651,1e06d 4b1,1ee00 627,1ee01 628,1ee02 62c,1ee03 62f,1ee05 648,1ee06 632",
   "1ee07 62d,1ee08 637,1ee09 64a,1ee0e 633,1ee0f 639,1ee10 641,1ee11 635,1ee12 642,1ee13 631",
   "1ee14 634,1ee15 62a,1ee16 62b,1ee17 62e,1ee18 630,1ee19 636,1ee1a 638,1ee1b 63a,1ee1c 66e",
   "1ee1d 6ba,1ee1e 6a1,1ee1f 66f,1ee21 628,1ee22 62c,1ee24 647,1ee27 62d,1ee29 64a,1ee2e 633",
   "1ee2f 639,1ee30 641,1ee31 635,1ee32 642,1ee34 634,1ee35 62a,1ee36 62b,1ee37 62e,1ee39 636",
   "1ee3b 63a,1ee42 62c,1ee47 62d,1ee49 64a,1ee4b 644,1ee4d 646,1ee4e 633,1ee4f 639,1ee51 635",
   "1ee52 642,1ee54 634,1ee57 62e,1ee59 636,1ee5b 63a,1ee5d 6ba,1ee5f 66f,1ee61 628,1ee62 62c",
   "1ee64 647,1ee67 62d,1ee68 637,1ee69 64a,1ee6a 643,1ee6c 645,1ee6d 646,1ee6e 633,1ee6f 639",
   "1ee70 641,1ee71 635,1ee72 642,1ee74 634,1ee75 62a,1ee76 62b,1ee77 62e,1ee79 636,1ee7a 638",
   "1ee7b 63a,1ee7c 66e,1ee7e 6a1,1ee80 627,1ee81 628,1ee82 62c,1ee83 62f,1ee84 647,1ee85 648",
   "1ee86 632,1ee87 62d,1ee88 637,1ee89 64a,1ee8e 633,1ee8f 639,1ee90 641,1ee91 635,1ee92 642",
   "1ee93 631,1ee94 634,1ee95 62a,1ee96 62b,1ee97 62e,1ee98 630,1ee99 636,1ee9a 638,1ee9b 63a",
   "1eea1 628,1eea2 62c,1eea3 62f,1eea5 648,1eea6 632,1eea7 62d,1eea8 637,1eea9 64a,1eeae 633",
   "1eeaf 639,1eeb0 641,1eeb1 635,1eeb2 642,1eeb3 631,1eeb4 634,1eeb5 62a,1eeb6 62b,1eeb7 62e",
   "1eeb8 630,1eeb9 636,1eeba 638,1eebb 63a,1f101 30 2c,1f102 31 2c,1f103 32 2c,1f104 33 2c",
   "1f105 34 2c,1f106 35 2c,1f107 36 2c,1f108 37 2c,1f109 38 2c,1f10a 39 2c,1f110 28 61 29",
   "1f111 28 62 29,1f112 28 63 29,1f113 28 64 29,1f114 28 65 29,1f115 28 66 29,1f116 28 67 29",
   "1f117 28 68 29,1f118 28 69 29,1f119 28 6a 29,1f11a 28 6b 29,1f11b 28 6c 29,1f11c 28 6d 29",
   "1f11d 28 6e 29,1f11e 28 6f 29,1f11f 28 70 29,1f120 28 71 29,1f121 28 72 29,1f122 28 73 29",
   "1f123 28 74 29,1f124 28 75 29,1f125 28 76 29,1f126 28 77 29,1f127 28 78 29,1f128 28 79 29",
   "1f129 28 7a 29,1f12a 3014 73 3015,1f12b 63,1f12c 72,1f12d 63 64,1f12e 77 7a,1f14a 68 76",
   "1f14b 6d 76,1f14c 73 64,1f14d 73 73,1f14e 70 70 76,1f14f 77 63,1f16a 6d 63,1f16b 6d 64",
   "1f16c 6d 72,1f190 64 6a,1f200 307b 304b,1f201 30b3 30b3,1f202 30b5,1f210 624b,1f211 5b57",
   "1f212 53cc,1f213 30c7,1f214 4e8c,1f215 591a,1f216 89e3,1f217 5929,1f218 4ea4,1f219 6620",
   "1f21a 7121,1f21b 6599,1f21c 524d,1f21d 5f8c,1f21e 518d,1f21f 65b0,1f220 521d,1f221 7d42",
   "1f222 751f,1f223 8ca9,1f224 58f0,1f225 5439,1f226 6f14,1f227 6295,1f228 6355,1f229 4e00",
   "1f22a 4e09,1f22b 904a,1f22c 5de6,1f22d 4e2d,1f22e 53f3,1f22f 6307,1f230 8d70,1f231 6253",
   "1f232 7981,1f233 7a7a,1f234 5408,1f235 6e80,1f236 6709,1f237 6708,1f238 7533,1f239 5272",
   "1f23a 55b6,1f23b 914d,1f240 3014 672c 3015,1f241 3014 4e09 3015,1f242 3014 4e8c 3015",
   "1f243 3014 5b89 3015,1f244 3014 70b9 3015,1f245 3014 6253 3015,1f246 3014 76d7 3015",
   "1f247 3014 52dd 3015,1f248 3014 6557 3015,1f250 5f97,1f251 53ef"]

def replacements : List (Nat × List Nat) := Text.Codes.table replacementCodes

/-- Characters that are left out. -/
def ignored : List (Nat × Nat) :=
  [(0xAD, 0xAD), (0x34F, 0x34F), (0x115F, 0x1160), (0x17B4, 0x17B5), (0x180B, 0x180F),
   (0x200B, 0x200B), (0x2060, 0x2064), (0x206A, 0x206F), (0x3164, 0x3164), (0xFE00, 0xFE0F),
   (0xFEFF, 0xFEFF), (0xFFA0, 0xFFA0), (0x1BCA0, 0x1BCA3), (0x1D173, 0x1D17A), (0xE0100, 0xE01EF)]

/-- Characters that may not stand in a name. -/
def refused : List (Nat × Nat) :=
  [(0x80, 0x9F), (0x378, 0x379), (0x380, 0x383), (0x38B, 0x38B), (0x38D, 0x38D), (0x3A2, 0x3A2),
   (0x530, 0x530), (0x557, 0x558), (0x58B, 0x58C), (0x590, 0x590), (0x5C8, 0x5CF), (0x5EB, 0x5EE),
   (0x5F5, 0x605), (0x61C, 0x61C), (0x6DD, 0x6DD), (0x70E, 0x70F), (0x74B, 0x74C), (0x7B2, 0x7BF),
   (0x7FB, 0x7FC), (0x82E, 0x82F), (0x83F, 0x83F), (0x85C, 0x85D), (0x85F, 0x85F), (0x86B, 0x86F),
   (0x890, 0x896), (0x8E2, 0x8E2), (0x984, 0x984), (0x98D, 0x98E), (0x991, 0x992), (0x9A9, 0x9A9),
   (0x9B1, 0x9B1), (0x9B3, 0x9B5), (0x9BA, 0x9BB), (0x9C5, 0x9C6), (0x9C9, 0x9CA), (0x9CF, 0x9D6),
   (0x9D8, 0x9DB), (0x9DE, 0x9DE), (0x9E4, 0x9E5), (0x9FF, 0xA00), (0xA04, 0xA04), (0xA0B, 0xA0E),
   (0xA11, 0xA12), (0xA29, 0xA29), (0xA31, 0xA31), (0xA34, 0xA34), (0xA37, 0xA37), (0xA3A, 0xA3B),
   (0xA3D, 0xA3D), (0xA43, 0xA46), (0xA49, 0xA4A), (0xA4E, 0xA50), (0xA52, 0xA58), (0xA5D, 0xA5D),
   (0xA5F, 0xA65), (0xA77, 0xA80), (0xA84, 0xA84), (0xA8E, 0xA8E), (0xA92, 0xA92), (0xAA9, 0xAA9),
   (0xAB1, 0xAB1), (0xAB4, 0xAB4), (0xABA, 0xABB), (0xAC6, 0xAC6), (0xACA, 0xACA), (0xACE, 0xACF),
   (0xAD1, 0xADF), (0xAE4, 0xAE5), (0xAF2, 0xAF8), (0xB00, 0xB00), (0xB04, 0xB04), (0xB0D, 0xB0E),
   (0xB11, 0xB12), (0xB29, 0xB29), (0xB31, 0xB31), (0xB34, 0xB34), (0xB3A, 0xB3B), (0xB45, 0xB46),
   (0xB49, 0xB4A), (0xB4E, 0xB54), (0xB58, 0xB5B), (0xB5E, 0xB5E), (0xB64, 0xB65), (0xB78, 0xB81),
   (0xB84, 0xB84), (0xB8B, 0xB8D), (0xB91, 0xB91), (0xB96, 0xB98), (0xB9B, 0xB9B), (0xB9D, 0xB9D),
   (0xBA0, 0xBA2), (0xBA5, 0xBA7), (0xBAB, 0xBAD), (0xBBA, 0xBBD), (0xBC3, 0xBC5), (0xBC9, 0xBC9),
   (0xBCE, 0xBCF), (0xBD1, 0xBD6), (0xBD8, 0xBE5), (0xBFB, 0xBFF), (0xC0D, 0xC0D), (0xC11, 0xC11),
   (0xC29, 0xC29), (0xC3A, 0xC3B), (0xC45, 0xC45), (0xC49, 0xC49), (0xC4E, 0xC54), (0xC57, 0xC57),
   (0xC5B, 0xC5B), (0xC5E, 0xC5F), (0xC64, 0xC65), (0xC70, 0xC76), (0xC8D, 0xC8D), (0xC91, 0xC91),
   (0xCA9, 0xCA9), (0xCB4, 0xCB4), (0xCBA, 0xCBB), (0xCC5, 0xCC5), (0xCC9, 0xCC9), (0xCCE, 0xCD4),
   (0xCD7, 0xCDB), (0xCDF, 0xCDF), (0xCE4, 0xCE5), (0xCF0, 0xCF0), (0xCF4, 0xCFF), (0xD0D, 0xD0D),
   (0xD11, 0xD11), (0xD45, 0xD45), (0xD49, 0xD49), (0xD50, 0xD53), (0xD64, 0xD65), (0xD80, 0xD80),
   (0xD84, 0xD84), (0xD97, 0xD99), (0xDB2, 0xDB2), (0xDBC, 0xDBC), (0xDBE, 0xDBF), (0xDC7, 0xDC9),
   (0xDCB, 0xDCE), (0xDD5, 0xDD5), (0xDD7, 0xDD7), (0xDE0, 0xDE5), (0xDF0, 0xDF1), (0xDF5, 0xE00),
   (0xE3B, 0xE3E), (0xE5C, 0xE80), (0xE83, 0xE83), (0xE85, 0xE85), (0xE8B, 0xE8B), (0xEA4, 0xEA4),
   (0xEA6, 0xEA6), (0xEBE, 0xEBF), (0xEC5, 0xEC5), (0xEC7, 0xEC7), (0xECF, 0xECF), (0xEDA, 0xEDB),
   (0xEE0, 0xEFF), (0xF48, 0xF48), (0xF6D, 0xF70), (0xF98, 0xF98), (0xFBD, 0xFBD), (0xFCD, 0xFCD),
   (0xFDB, 0xFFF), (0x10C6, 0x10C6), (0x10C8, 0x10CC), (0x10CE, 0x10CF), (0x1249, 0x1249),
   (0x124E, 0x124F), (0x1257, 0x1257), (0x1259, 0x1259), (0x125E, 0x125F), (0x1289, 0x1289),
   (0x128E, 0x128F), (0x12B1, 0x12B1), (0x12B6, 0x12B7), (0x12BF, 0x12BF), (0x12C1, 0x12C1),
   (0x12C6, 0x12C7), (0x12D7, 0x12D7), (0x1311, 0x1311), (0x1316, 0x1317), (0x135B, 0x135C),
   (0x137D, 0x137F), (0x139A, 0x139F), (0x13F6, 0x13F7), (0x13FE, 0x13FF), (0x1680, 0x1680),
   (0x169D, 0x169F), (0x16F9, 0x16FF), (0x1716, 0x171E), (0x1737, 0x173F), (0x1754, 0x175F),
   (0x176D, 0x176D), (0x1771, 0x1771), (0x1774, 0x177F), (0x17DE, 0x17DF), (0x17EA, 0x17EF),
   (0x17FA, 0x17FF), (0x181A, 0x181F), (0x1879, 0x187F), (0x18AB, 0x18AF), (0x18F6, 0x18FF),
   (0x191F, 0x191F), (0x192C, 0x192F), (0x193C, 0x193F), (0x1941, 0x1943), (0x196E, 0x196F),
   (0x1975, 0x197F), (0x19AC, 0x19AF), (0x19CA, 0x19CF), (0x19DB, 0x19DD), (0x1A1C, 0x1A1D),
   (0x1A5F, 0x1A5F), (0x1A7D, 0x1A7E), (0x1A8A, 0x1A8F), (0x1A9A, 0x1A9F), (0x1AAE, 0x1AAF),
   (0x1ADE, 0x1ADF), (0x1AEC, 0x1AFF), (0x1B4D, 0x1B4D), (0x1BF4, 0x1BFB), (0x1C38, 0x1C3A),
   (0x1C4A, 0x1C4C), (0x1C8B, 0x1C8F), (0x1CBB, 0x1CBC), (0x1CC8, 0x1CCF), (0x1CFB, 0x1CFF),
   (0x1F16, 0x1F17), (0x1F1E, 0x1F1F), (0x1F46, 0x1F47), (0x1F4E, 0x1F4F), (0x1F58, 0x1F58),
   (0x1F5A, 0x1F5A), (0x1F5C, 0x1F5C), (0x1F5E, 0x1F5E), (0x1F7E, 0x1F7F), (0x1FB5, 0x1FB5),
   (0x1FC5, 0x1FC5), (0x1FD4, 0x1FD5), (0x1FDC, 0x1FDC), (0x1FF0, 0x1FF1), (0x1FF5, 0x1FF5),
   (0x1FFF, 0x1FFF), (0x200E, 0x200F), (0x2024, 0x2026), (0x2028, 0x202E), (0x2065, 0x2069),
   (0x2072, 0x2073), (0x208F, 0x208F), (0x209D, 0x209F), (0x20C2, 0x20CF), (0x20F1, 0x20FF),
   (0x218C, 0x218F), (0x242A, 0x243F), (0x244B, 0x245F), (0x2488, 0x249B), (0x2B74, 0x2B75),
   (0x2CF4, 0x2CF8), (0x2D26, 0x2D26), (0x2D28, 0x2D2C), (0x2D2E, 0x2D2F), (0x2D68, 0x2D6E),
   (0x2D71, 0x2D7E), (0x2D97, 0x2D9F), (0x2DA7, 0x2DA7), (0x2DAF, 0x2DAF), (0x2DB7, 0x2DB7),
   (0x2DBF, 0x2DBF), (0x2DC7, 0x2DC7), (0x2DCF, 0x2DCF), (0x2DD7, 0x2DD7), (0x2DDF, 0x2DDF),
   (0x2E5E, 0x2E7F), (0x2E9A, 0x2E9A), (0x2EF4, 0x2EFF), (0x2FD6, 0x2FFF), (0x3040, 0x3040),
   (0x3097, 0x3098), (0x3100, 0x3104), (0x3130, 0x3130), (0x318F, 0x318F), (0x31E6, 0x31EF),
   (0x321F, 0x321F), (0x33C2, 0x33C2), (0x33C7, 0x33C7), (0x33D8, 0x33D8), (0xA48D, 0xA48F),
   (0xA4C7, 0xA4CF), (0xA62C, 0xA63F), (0xA6F8, 0xA6FF), (0xA7DD, 0xA7F0), (0xA82D, 0xA82F),
   (0xA83A, 0xA83F), (0xA878, 0xA87F), (0xA8C6, 0xA8CD), (0xA8DA, 0xA8DF), (0xA954, 0xA95E),
   (0xA97D, 0xA97F), (0xA9CE, 0xA9CE), (0xA9DA, 0xA9DD), (0xA9FF, 0xA9FF), (0xAA37, 0xAA3F),
   (0xAA4E, 0xAA4F), (0xAA5A, 0xAA5B), (0xAAC3, 0xAADA), (0xAAF7, 0xAB00), (0xAB07, 0xAB08),
   (0xAB0F, 0xAB10), (0xAB17, 0xAB1F), (0xAB27, 0xAB27), (0xAB2F, 0xAB2F), (0xAB6C, 0xAB6F),
   (0xABEE, 0xABEF), (0xABFA, 0xABFF), (0xD7A4, 0xD7AF), (0xD7C7, 0xD7CA), (0xD7FC, 0xF8FF),
   (0xFA6E, 0xFA6F), (0xFADA, 0xFAFF), (0xFB07, 0xFB12), (0xFB18, 0xFB1C), (0xFB37, 0xFB37),
   (0xFB3D, 0xFB3D), (0xFB3F, 0xFB3F), (0xFB42, 0xFB42), (0xFB45, 0xFB45), (0xFDD0, 0xFDEF),
   (0xFE12, 0xFE12), (0xFE19, 0xFE1F), (0xFE30, 0xFE30), (0xFE52, 0xFE53), (0xFE67, 0xFE67),
   (0xFE6C, 0xFE6F), (0xFE75, 0xFE75), (0xFEFD, 0xFEFE), (0xFF00, 0xFF00), (0xFFBF, 0xFFC1),
   (0xFFC8, 0xFFC9), (0xFFD0, 0xFFD1), (0xFFD8, 0xFFD9), (0xFFDD, 0xFFDF), (0xFFE7, 0xFFE7),
   (0xFFEF, 0xFFFF), (0x1000C, 0x1000C), (0x10027, 0x10027), (0x1003B, 0x1003B),
   (0x1003E, 0x1003E), (0x1004E, 0x1004F), (0x1005E, 0x1007F), (0x100FB, 0x100FF),
   (0x10103, 0x10106), (0x10134, 0x10136), (0x1018F, 0x1018F), (0x1019D, 0x1019F),
   (0x101A1, 0x101CF), (0x101FE, 0x1027F), (0x1029D, 0x1029F), (0x102D1, 0x102DF),
   (0x102FC, 0x102FF), (0x10324, 0x1032C), (0x1034B, 0x1034F), (0x1037B, 0x1037F),
   (0x1039E, 0x1039E), (0x103C4, 0x103C7), (0x103D6, 0x103FF), (0x1049E, 0x1049F),
   (0x104AA, 0x104AF), (0x104D4, 0x104D7), (0x104FC, 0x104FF), (0x10528, 0x1052F),
   (0x10564, 0x1056E), (0x1057B, 0x1057B), (0x1058B, 0x1058B), (0x10593, 0x10593),
   (0x10596, 0x10596), (0x105A2, 0x105A2), (0x105B2, 0x105B2), (0x105BA, 0x105BA),
   (0x105BD, 0x105BF), (0x105F4, 0x105FF), (0x10737, 0x1073F), (0x10756, 0x1075F),
   (0x10768, 0x1077F), (0x10786, 0x10786), (0x107B1, 0x107B1), (0x107BB, 0x107FF),
   (0x10806, 0x10807), (0x10809, 0x10809), (0x10836, 0x10836), (0x10839, 0x1083B),
   (0x1083D, 0x1083E), (0x10856, 0x10856), (0x1089F, 0x108A6), (0x108B0, 0x108DF),
   (0x108F3, 0x108F3), (0x108F6, 0x108FA), (0x1091C, 0x1091E), (0x1093A, 0x1093E),
   (0x1095A, 0x1097F), (0x109B8, 0x109BB), (0x109D0, 0x109D1), (0x10A04, 0x10A04),
   (0x10A07, 0x10A0B), (0x10A14, 0x10A14), (0x10A18, 0x10A18), (0x10A36, 0x10A37),
   (0x10A3B, 0x10A3E), (0x10A49, 0x10A4F), (0x10A59, 0x10A5F), (0x10AA0, 0x10ABF),
   (0x10AE7, 0x10AEA), (0x10AF7, 0x10AFF), (0x10B36, 0x10B38), (0x10B56, 0x10B57),
   (0x10B73, 0x10B77), (0x10B92, 0x10B98), (0x10B9D, 0x10BA8), (0x10BB0, 0x10BFF),
   (0x10C49, 0x10C7F), (0x10CB3, 0x10CBF), (0x10CF3, 0x10CF9), (0x10D28, 0x10D2F),
   (0x10D3A, 0x10D3F), (0x10D66, 0x10D68), (0x10D86, 0x10D8D), (0x10D90, 0x10E5F),
   (0x10E7F, 0x10E7F), (0x10EAA, 0x10EAA), (0x10EAE, 0x10EAF), (0x10EB2, 0x10EC1),
   (0x10EC8, 0x10ECF), (0x10ED9, 0x10EF9), (0x10F28, 0x10F2F), (0x10F5A, 0x10F6F),
   (0x10F8A, 0x10FAF), (0x10FCC, 0x10FDF), (0x10FF7, 0x10FFF), (0x1104E, 0x11051),
   (0x11076, 0x1107E), (0x110BD, 0x110BD), (0x110C3, 0x110CF), (0x110E9, 0x110EF),
   (0x110FA, 0x110FF), (0x11135, 0x11135), (0x11148, 0x1114F), (0x11177, 0x1117F),
   (0x111E0, 0x111E0), (0x111F5, 0x111FF), (0x11212, 0x11212), (0x11242, 0x1127F),
   (0x11287, 0x11287), (0x11289, 0x11289), (0x1128E, 0x1128E), (0x1129E, 0x1129E),
   (0x112AA, 0x112AF), (0x112EB, 0x112EF), (0x112FA, 0x112FF), (0x11304, 0x11304),
   (0x1130D, 0x1130E), (0x11311, 0x11312), (0x11329, 0x11329), (0x11331, 0x11331),
   (0x11334, 0x11334), (0x1133A, 0x1133A), (0x11345, 0x11346), (0x11349, 0x1134A),
   (0x1134E, 0x1134F), (0x11351, 0x11356), (0x11358, 0x1135C), (0x11364, 0x11365),
   (0x1136D, 0x1136F), (0x11375, 0x1137F), (0x1138A, 0x1138A), (0x1138C, 0x1138D),
   (0x1138F, 0x1138F), (0x113B6, 0x113B6), (0x113C1, 0x113C1), (0x113C3, 0x113C4),
   (0x113C6, 0x113C6), (0x113CB, 0x113CB), (0x113D6, 0x113D6), (0x113D9, 0x113E0),
   (0x113E3, 0x113FF), (0x1145C, 0x1145C), (0x11462, 0x1147F), (0x114C8, 0x114CF),
   (0x114DA, 0x1157F), (0x115B6, 0x115B7), (0x115DE, 0x115FF), (0x11645, 0x1164F),
   (0x1165A, 0x1165F), (0x1166D, 0x1167F), (0x116BA, 0x116BF), (0x116CA, 0x116CF),
   (0x116E4, 0x116FF), (0x1171B, 0x1171C), (0x1172C, 0x1172F), (0x11747, 0x117FF),
   (0x1183C, 0x1189F), (0x118F3, 0x118FE), (0x11907, 0x11908), (0x1190A, 0x1190B),
   (0x11914, 0x11914), (0x11917, 0x11917), (0x11936, 0x11936), (0x11939, 0x1193A),
   (0x11947, 0x1194F), (0x1195A, 0x1199F), (0x119A8, 0x119A9), (0x119D8, 0x119D9),
   (0x119E5, 0x119FF), (0x11A48, 0x11A4F), (0x11AA3, 0x11AAF), (0x11AF9, 0x11AFF),
   (0x11B0A, 0x11B5F), (0x11B68, 0x11BBF), (0x11BE2, 0x11BEF), (0x11BFA, 0x11BFF),
   (0x11C09, 0x11C09), (0x11C37, 0x11C37), (0x11C46, 0x11C4F), (0x11C6D, 0x11C6F),
   (0x11C90, 0x11C91), (0x11CA8, 0x11CA8), (0x11CB7, 0x11CFF), (0x11D07, 0x11D07),
   (0x11D0A, 0x11D0A), (0x11D37, 0x11D39), (0x11D3B, 0x11D3B), (0x11D3E, 0x11D3E),
   (0x11D48, 0x11D4F), (0x11D5A, 0x11D5F), (0x11D66, 0x11D66), (0x11D69, 0x11D69),
   (0x11D8F, 0x11D8F), (0x11D92, 0x11D92), (0x11D99, 0x11D9F), (0x11DAA, 0x11DAF),
   (0x11DDC, 0x11DDF), (0x11DEA, 0x11EDF), (0x11EF9, 0x11EFF), (0x11F11, 0x11F11),
   (0x11F3B, 0x11F3D), (0x11F5B, 0x11FAF), (0x11FB1, 0x11FBF), (0x11FF2, 0x11FFE),
   (0x1239A, 0x123FF), (0x1246F, 0x1246F), (0x12475, 0x1247F), (0x12544, 0x12F8F),
   (0x12FF3, 0x12FFF), (0x13430, 0x1343F), (0x13456, 0x1345F), (0x143FB, 0x143FF),
   (0x14647, 0x160FF), (0x1613A, 0x167FF), (0x16A39, 0x16A3F), (0x16A5F, 0x16A5F),
   (0x16A6A, 0x16A6D), (0x16ABF, 0x16ABF), (0x16ACA, 0x16ACF), (0x16AEE, 0x16AEF),
   (0x16AF6, 0x16AFF), (0x16B46, 0x16B4F), (0x16B5A, 0x16B5A), (0x16B62, 0x16B62),
   (0x16B78, 0x16B7C), (0x16B90, 0x16D3F), (0x16D7A, 0x16E3F), (0x16E9B, 0x16E9F),
   (0x16EB9, 0x16EBA), (0x16ED4, 0x16EFF), (0x16F4B, 0x16F4E), (0x16F88, 0x16F8E),
   (0x16FA0, 0x16FDF), (0x16FE5, 0x16FEF), (0x16FF7, 0x16FFF), (0x18CD6, 0x18CFE),
   (0x18D1F, 0x18D7F), (0x18DF3, 0x1AFEF), (0x1AFF4, 0x1AFF4), (0x1AFFC, 0x1AFFC),
   (0x1AFFF, 0x1AFFF), (0x1B123, 0x1B131), (0x1B133, 0x1B14F), (0x1B153, 0x1B154),
   (0x1B156, 0x1B163), (0x1B168, 0x1B16F), (0x1B2FC, 0x1BBFF), (0x1BC6B, 0x1BC6F),
   (0x1BC7D, 0x1BC7F), (0x1BC89, 0x1BC8F), (0x1BC9A, 0x1BC9B), (0x1BCA4, 0x1CBFF),
   (0x1CCFD, 0x1CCFF), (0x1CEB4, 0x1CEB9), (0x1CED1, 0x1CEDF), (0x1CEF1, 0x1CEFF),
   (0x1CF2E, 0x1CF2F), (0x1CF47, 0x1CF4F), (0x1CFC4, 0x1CFFF), (0x1D0F6, 0x1D0FF),
   (0x1D127, 0x1D128), (0x1D1EB, 0x1D1FF), (0x1D246, 0x1D2BF), (0x1D2D4, 0x1D2DF),
   (0x1D2F4, 0x1D2FF), (0x1D357, 0x1D35F), (0x1D379, 0x1D3FF), (0x1D455, 0x1D455),
   (0x1D49D, 0x1D49D), (0x1D4A0, 0x1D4A1), (0x1D4A3, 0x1D4A4), (0x1D4A7, 0x1D4A8),
   (0x1D4AD, 0x1D4AD), (0x1D4BA, 0x1D4BA), (0x1D4BC, 0x1D4BC), (0x1D4C4, 0x1D4C4),
   (0x1D506, 0x1D506), (0x1D50B, 0x1D50C), (0x1D515, 0x1D515), (0x1D51D, 0x1D51D),
   (0x1D53A, 0x1D53A), (0x1D53F, 0x1D53F), (0x1D545, 0x1D545), (0x1D547, 0x1D549),
   (0x1D551, 0x1D551), (0x1D6A6, 0x1D6A7), (0x1D7CC, 0x1D7CD), (0x1DA8C, 0x1DA9A),
   (0x1DAA0, 0x1DAA0), (0x1DAB0, 0x1DEFF), (0x1DF1F, 0x1DF24), (0x1DF2B, 0x1DFFF),
   (0x1E007, 0x1E007), (0x1E019, 0x1E01A), (0x1E022, 0x1E022), (0x1E025, 0x1E025),
   (0x1E02B, 0x1E02F), (0x1E06E, 0x1E08E), (0x1E090, 0x1E0FF), (0x1E12D, 0x1E12F),
   (0x1E13E, 0x1E13F), (0x1E14A, 0x1E14D), (0x1E150, 0x1E28F), (0x1E2AF, 0x1E2BF),
   (0x1E2FA, 0x1E2FE), (0x1E300, 0x1E4CF), (0x1E4FA, 0x1E5CF), (0x1E5FB, 0x1E5FE),
   (0x1E600, 0x1E6BF), (0x1E6DF, 0x1E6DF), (0x1E6F6, 0x1E6FD), (0x1E700, 0x1E7DF),
   (0x1E7E7, 0x1E7E7), (0x1E7EC, 0x1E7EC), (0x1E7EF, 0x1E7EF), (0x1E7FF, 0x1E7FF),
   (0x1E8C5, 0x1E8C6), (0x1E8D7, 0x1E8FF), (0x1E94C, 0x1E94F), (0x1E95A, 0x1E95D),
   (0x1E960, 0x1EC70), (0x1ECB5, 0x1ED00), (0x1ED3E, 0x1EDFF), (0x1EE04, 0x1EE04),
   (0x1EE20, 0x1EE20), (0x1EE23, 0x1EE23), (0x1EE25, 0x1EE26), (0x1EE28, 0x1EE28),
   (0x1EE33, 0x1EE33), (0x1EE38, 0x1EE38), (0x1EE3A, 0x1EE3A), (0x1EE3C, 0x1EE41),
   (0x1EE43, 0x1EE46), (0x1EE48, 0x1EE48), (0x1EE4A, 0x1EE4A), (0x1EE4C, 0x1EE4C),
   (0x1EE50, 0x1EE50), (0x1EE53, 0x1EE53), (0x1EE55, 0x1EE56), (0x1EE58, 0x1EE58),
   (0x1EE5A, 0x1EE5A), (0x1EE5C, 0x1EE5C), (0x1EE5E, 0x1EE5E), (0x1EE60, 0x1EE60),
   (0x1EE63, 0x1EE63), (0x1EE65, 0x1EE66), (0x1EE6B, 0x1EE6B), (0x1EE73, 0x1EE73),
   (0x1EE78, 0x1EE78), (0x1EE7D, 0x1EE7D), (0x1EE7F, 0x1EE7F), (0x1EE8A, 0x1EE8A),
   (0x1EE9C, 0x1EEA0), (0x1EEA4, 0x1EEA4), (0x1EEAA, 0x1EEAA), (0x1EEBC, 0x1EEEF),
   (0x1EEF2, 0x1EFFF), (0x1F02C, 0x1F02F), (0x1F094, 0x1F09F), (0x1F0AF, 0x1F0B0),
   (0x1F0C0, 0x1F0C0), (0x1F0D0, 0x1F0D0), (0x1F0F6, 0x1F100), (0x1F1AE, 0x1F1E5),
   (0x1F203, 0x1F20F), (0x1F23C, 0x1F23F), (0x1F249, 0x1F24F), (0x1F252, 0x1F25F),
   (0x1F266, 0x1F2FF), (0x1F6D9, 0x1F6DB), (0x1F6ED, 0x1F6EF), (0x1F6FD, 0x1F6FF),
   (0x1F7DA, 0x1F7DF), (0x1F7EC, 0x1F7EF), (0x1F7F1, 0x1F7FF), (0x1F80C, 0x1F80F),
   (0x1F848, 0x1F84F), (0x1F85A, 0x1F85F), (0x1F888, 0x1F88F), (0x1F8AE, 0x1F8AF),
   (0x1F8BC, 0x1F8BF), (0x1F8C2, 0x1F8CF), (0x1F8D9, 0x1F8FF), (0x1FA58, 0x1FA5F),
   (0x1FA6E, 0x1FA6F), (0x1FA7D, 0x1FA7F), (0x1FA8B, 0x1FA8D), (0x1FAC7, 0x1FAC7),
   (0x1FAC9, 0x1FACC), (0x1FADD, 0x1FADE), (0x1FAEB, 0x1FAEE), (0x1FAF9, 0x1FAFF),
   (0x1FB93, 0x1FB93), (0x1FBFB, 0x1FFFF), (0x2A6E0, 0x2A6FF), (0x2B81E, 0x2B81F),
   (0x2CEAE, 0x2CEAF), (0x2EBE1, 0x2EBEF), (0x2EE5E, 0x2F7FF), (0x2FA1E, 0x2FFFF),
   (0x3134B, 0x3134F), (0x3347A, 0xE00FF), (0xE01F0, 0x10FFFF)]

def marks : List (Nat × Nat) :=
  [(0x300, 0x36F), (0x483, 0x489), (0x591, 0x5BD), (0x5BF, 0x5BF), (0x5C1, 0x5C2), (0x5C4, 0x5C5),
   (0x5C7, 0x5C7), (0x610, 0x61A), (0x64B, 0x65F), (0x670, 0x670), (0x6D6, 0x6DC), (0x6DF, 0x6E4),
   (0x6E7, 0x6E8), (0x6EA, 0x6ED), (0x711, 0x711), (0x730, 0x74A), (0x7A6, 0x7B0), (0x7EB, 0x7F3),
   (0x7FD, 0x7FD), (0x816, 0x819), (0x81B, 0x823), (0x825, 0x827), (0x829, 0x82D), (0x859, 0x85B),
   (0x897, 0x89F), (0x8CA, 0x903), (0x93A, 0x93C), (0x93E, 0x94F), (0x951, 0x957), (0x962, 0x963),
   (0x981, 0x983), (0x9BC, 0x9BC), (0x9BE, 0x9CD), (0x9D7, 0x9D7), (0x9E2, 0x9E3), (0x9FE, 0xA03),
   (0xA3C, 0xA51), (0xA70, 0xA71), (0xA75, 0xA75), (0xA81, 0xA83), (0xABC, 0xABC), (0xABE, 0xACD),
   (0xAE2, 0xAE3), (0xAFA, 0xB03), (0xB3C, 0xB3C), (0xB3E, 0xB57), (0xB62, 0xB63), (0xB82, 0xB82),
   (0xBBE, 0xBCD), (0xBD7, 0xBD7), (0xC00, 0xC04), (0xC3C, 0xC3C), (0xC3E, 0xC56), (0xC62, 0xC63),
   (0xC81, 0xC83), (0xCBC, 0xCBC), (0xCBE, 0xCD6), (0xCE2, 0xCE3), (0xCF3, 0xD03), (0xD3B, 0xD3C),
   (0xD3E, 0xD4D), (0xD57, 0xD57), (0xD62, 0xD63), (0xD81, 0xD83), (0xDCA, 0xDDF), (0xDF2, 0xDF3),
   (0xE31, 0xE31), (0xE34, 0xE3A), (0xE47, 0xE4E), (0xEB1, 0xEB1), (0xEB4, 0xEBC), (0xEC8, 0xECE),
   (0xF18, 0xF19), (0xF35, 0xF35), (0xF37, 0xF37), (0xF39, 0xF39), (0xF3E, 0xF3F), (0xF71, 0xF84),
   (0xF86, 0xF87), (0xF8D, 0xFBC), (0xFC6, 0xFC6), (0x102B, 0x103E), (0x1056, 0x1059),
   (0x105E, 0x1060), (0x1062, 0x1064), (0x1067, 0x106D), (0x1071, 0x1074), (0x1082, 0x108D),
   (0x108F, 0x108F), (0x109A, 0x109D), (0x135D, 0x135F), (0x1712, 0x1715), (0x1732, 0x1734),
   (0x1752, 0x1753), (0x1772, 0x1773), (0x17B6, 0x17D3), (0x17DD, 0x17DD), (0x1885, 0x1886),
   (0x18A9, 0x18A9), (0x1920, 0x193B), (0x1A17, 0x1A1B), (0x1A55, 0x1A7F), (0x1AB0, 0x1B04),
   (0x1B34, 0x1B44), (0x1B6B, 0x1B73), (0x1B80, 0x1B82), (0x1BA1, 0x1BAD), (0x1BE6, 0x1BF3),
   (0x1C24, 0x1C37), (0x1CD0, 0x1CD2), (0x1CD4, 0x1CE8), (0x1CED, 0x1CED), (0x1CF4, 0x1CF4),
   (0x1CF7, 0x1CF9), (0x1DC0, 0x1DFF), (0x20D0, 0x20F0), (0x2CEF, 0x2CF1), (0x2D7F, 0x2D7F),
   (0x2DE0, 0x2DFF), (0x302A, 0x302F), (0x3099, 0x309A), (0xA66F, 0xA672), (0xA674, 0xA67D),
   (0xA69E, 0xA69F), (0xA6F0, 0xA6F1), (0xA802, 0xA802), (0xA806, 0xA806), (0xA80B, 0xA80B),
   (0xA823, 0xA827), (0xA82C, 0xA82C), (0xA880, 0xA881), (0xA8B4, 0xA8C5), (0xA8E0, 0xA8F1),
   (0xA8FF, 0xA8FF), (0xA926, 0xA92D), (0xA947, 0xA953), (0xA980, 0xA983), (0xA9B3, 0xA9C0),
   (0xA9E5, 0xA9E5), (0xAA29, 0xAA36), (0xAA43, 0xAA43), (0xAA4C, 0xAA4D), (0xAA7B, 0xAA7D),
   (0xAAB0, 0xAAB0), (0xAAB2, 0xAAB4), (0xAAB7, 0xAAB8), (0xAABE, 0xAABF), (0xAAC1, 0xAAC1),
   (0xAAEB, 0xAAEF), (0xAAF5, 0xAAF6), (0xABE3, 0xABEA), (0xABEC, 0xABED), (0xFB1E, 0xFB1E),
   (0xFE20, 0xFE2F), (0x101FD, 0x101FD), (0x102E0, 0x102E0), (0x10376, 0x1037A),
   (0x10A01, 0x10A0F), (0x10A38, 0x10A3F), (0x10AE5, 0x10AE6), (0x10D24, 0x10D27),
   (0x10D69, 0x10D6D), (0x10EAB, 0x10EAC), (0x10EFA, 0x10EFF), (0x10F46, 0x10F50),
   (0x10F82, 0x10F85), (0x11000, 0x11002), (0x11038, 0x11046), (0x11070, 0x11070),
   (0x11073, 0x11074), (0x1107F, 0x11082), (0x110B0, 0x110BA), (0x110C2, 0x110C2),
   (0x11100, 0x11102), (0x11127, 0x11134), (0x11145, 0x11146), (0x11173, 0x11173),
   (0x11180, 0x11182), (0x111B3, 0x111C0), (0x111C9, 0x111CC), (0x111CE, 0x111CF),
   (0x1122C, 0x11237), (0x1123E, 0x1123E), (0x11241, 0x11241), (0x112DF, 0x112EA),
   (0x11300, 0x11303), (0x1133B, 0x1133C), (0x1133E, 0x1134D), (0x11357, 0x11357),
   (0x11362, 0x11374), (0x113B8, 0x113D0), (0x113D2, 0x113D2), (0x113E1, 0x113E2),
   (0x11435, 0x11446), (0x1145E, 0x1145E), (0x114B0, 0x114C3), (0x115AF, 0x115C0),
   (0x115DC, 0x115DD), (0x11630, 0x11640), (0x116AB, 0x116B7), (0x1171D, 0x1172B),
   (0x1182C, 0x1183A), (0x11930, 0x1193E), (0x11940, 0x11940), (0x11942, 0x11943),
   (0x119D1, 0x119E0), (0x119E4, 0x119E4), (0x11A01, 0x11A0A), (0x11A33, 0x11A39),
   (0x11A3B, 0x11A3E), (0x11A47, 0x11A47), (0x11A51, 0x11A5B), (0x11A8A, 0x11A99),
   (0x11B60, 0x11B67), (0x11C2F, 0x11C3F), (0x11C92, 0x11CB6), (0x11D31, 0x11D45),
   (0x11D47, 0x11D47), (0x11D8A, 0x11D97), (0x11EF3, 0x11EF6), (0x11F00, 0x11F01),
   (0x11F03, 0x11F03), (0x11F34, 0x11F42), (0x11F5A, 0x11F5A), (0x13440, 0x13440),
   (0x13447, 0x13455), (0x1611E, 0x1612F), (0x16AF0, 0x16AF4), (0x16B30, 0x16B36),
   (0x16F4F, 0x16F4F), (0x16F51, 0x16F92), (0x16FE4, 0x16FF1), (0x1BC9D, 0x1BC9E),
   (0x1CF00, 0x1CF46), (0x1D165, 0x1D169), (0x1D16D, 0x1D182), (0x1D185, 0x1D18B),
   (0x1D1AA, 0x1D1AD), (0x1D242, 0x1D244), (0x1DA00, 0x1DA36), (0x1DA3B, 0x1DA6C),
   (0x1DA75, 0x1DA75), (0x1DA84, 0x1DA84), (0x1DA9B, 0x1DAAF), (0x1E000, 0x1E08F),
   (0x1E130, 0x1E136), (0x1E2AE, 0x1E2AE), (0x1E2EC, 0x1E2EF), (0x1E4EC, 0x1E4EF),
   (0x1E5EE, 0x1E5EF), (0x1E6E3, 0x1E6E3), (0x1E6E6, 0x1E6E6), (0x1E6EE, 0x1E6EF),
   (0x1E6F5, 0x1E6F5), (0x1E8D0, 0x1E8D6), (0x1E944, 0x1E94A)]

def rightToLeft : List (Nat × Nat) :=
  [(0x5BE, 0x5BE), (0x5C0, 0x5C0), (0x5C3, 0x5C3), (0x5C6, 0x5C6), (0x5D0, 0x5F4), (0x608, 0x608),
   (0x60B, 0x60B), (0x60D, 0x60D), (0x61B, 0x64A), (0x66D, 0x66F), (0x671, 0x6D5), (0x6E5, 0x6E6),
   (0x6EE, 0x6EF), (0x6FA, 0x710), (0x712, 0x72F), (0x74D, 0x7A5), (0x7B1, 0x7EA), (0x7F4, 0x7F5),
   (0x7FA, 0x7FA), (0x7FE, 0x815), (0x81A, 0x81A), (0x824, 0x824), (0x828, 0x828), (0x830, 0x858),
   (0x85E, 0x88F), (0x8A0, 0x8C9), (0xFBB2, 0xFBC2), (0xFE73, 0xFE73), (0x10800, 0x1091B),
   (0x10920, 0x10A00), (0x10A10, 0x10A35), (0x10A40, 0x10AE4), (0x10AEB, 0x10B35),
   (0x10B40, 0x10D23), (0x10D40, 0x10D4F), (0x10D6F, 0x10D85), (0x10E80, 0x10EA9),
   (0x10EAD, 0x10EC7), (0x10F00, 0x10F45), (0x10F51, 0x10F81), (0x10F86, 0x10FF6),
   (0x1E800, 0x1E8CF), (0x1E922, 0x1E943), (0x1E94B, 0x1ED3D)]

def arabicNumbers : List (Nat × Nat) :=
  [(0x660, 0x669), (0x66B, 0x66C), (0x10D30, 0x10D39), (0x10E60, 0x10E7E)]

def europeanNumbers : List (Nat × Nat) :=
  [(0x30, 0x39), (0x6F0, 0x6F9), (0x102E1, 0x102FB)]

/-- Marks that take no space of their own. -/
def nonspacing : List (Nat × Nat) :=
  [(0x300, 0x36F), (0x483, 0x489), (0x591, 0x5BD), (0x5BF, 0x5BF), (0x5C1, 0x5C2), (0x5C4, 0x5C5),
   (0x5C7, 0x5C7), (0x610, 0x61A), (0x64B, 0x65F), (0x670, 0x670), (0x6D6, 0x6DC), (0x6DF, 0x6E4),
   (0x6E7, 0x6E8), (0x6EA, 0x6ED), (0x711, 0x711), (0x730, 0x74A), (0x7A6, 0x7B0), (0x7EB, 0x7F3),
   (0x7FD, 0x7FD), (0x816, 0x819), (0x81B, 0x823), (0x825, 0x827), (0x829, 0x82D), (0x859, 0x85B),
   (0x897, 0x89F), (0x8CA, 0x902), (0x93A, 0x93A), (0x93C, 0x93C), (0x941, 0x948), (0x94D, 0x94D),
   (0x951, 0x957), (0x962, 0x963), (0x981, 0x981), (0x9BC, 0x9BC), (0x9C1, 0x9C4), (0x9CD, 0x9CD),
   (0x9E2, 0x9E3), (0x9FE, 0xA02), (0xA3C, 0xA3C), (0xA41, 0xA51), (0xA70, 0xA71), (0xA75, 0xA75),
   (0xA81, 0xA82), (0xABC, 0xABC), (0xAC1, 0xAC8), (0xACD, 0xACD), (0xAE2, 0xAE3), (0xAFA, 0xB01),
   (0xB3C, 0xB3C), (0xB3F, 0xB3F), (0xB41, 0xB44), (0xB4D, 0xB56), (0xB62, 0xB63), (0xB82, 0xB82),
   (0xBC0, 0xBC0), (0xBCD, 0xBCD), (0xC00, 0xC00), (0xC04, 0xC04), (0xC3C, 0xC3C), (0xC3E, 0xC40),
   (0xC46, 0xC56), (0xC62, 0xC63), (0xC81, 0xC81), (0xCBC, 0xCBC), (0xCCC, 0xCCD), (0xCE2, 0xCE3),
   (0xD00, 0xD01), (0xD3B, 0xD3C), (0xD41, 0xD44), (0xD4D, 0xD4D), (0xD62, 0xD63), (0xD81, 0xD81),
   (0xDCA, 0xDCA), (0xDD2, 0xDD6), (0xE31, 0xE31), (0xE34, 0xE3A), (0xE47, 0xE4E), (0xEB1, 0xEB1),
   (0xEB4, 0xEBC), (0xEC8, 0xECE), (0xF18, 0xF19), (0xF35, 0xF35), (0xF37, 0xF37), (0xF39, 0xF39),
   (0xF71, 0xF7E), (0xF80, 0xF84), (0xF86, 0xF87), (0xF8D, 0xFBC), (0xFC6, 0xFC6),
   (0x102D, 0x1030), (0x1032, 0x1037), (0x1039, 0x103A), (0x103D, 0x103E), (0x1058, 0x1059),
   (0x105E, 0x1060), (0x1071, 0x1074), (0x1082, 0x1082), (0x1085, 0x1086), (0x108D, 0x108D),
   (0x109D, 0x109D), (0x135D, 0x135F), (0x1712, 0x1714), (0x1732, 0x1733), (0x1752, 0x1753),
   (0x1772, 0x1773), (0x17B7, 0x17BD), (0x17C6, 0x17C6), (0x17C9, 0x17D3), (0x17DD, 0x17DD),
   (0x1885, 0x1886), (0x18A9, 0x18A9), (0x1920, 0x1922), (0x1927, 0x1928), (0x1932, 0x1932),
   (0x1939, 0x193B), (0x1A17, 0x1A18), (0x1A1B, 0x1A1B), (0x1A56, 0x1A56), (0x1A58, 0x1A60),
   (0x1A62, 0x1A62), (0x1A65, 0x1A6C), (0x1A73, 0x1A7F), (0x1AB0, 0x1B03), (0x1B34, 0x1B34),
   (0x1B36, 0x1B3A), (0x1B3C, 0x1B3C), (0x1B42, 0x1B42), (0x1B6B, 0x1B73), (0x1B80, 0x1B81),
   (0x1BA2, 0x1BA5), (0x1BA8, 0x1BA9), (0x1BAB, 0x1BAD), (0x1BE6, 0x1BE6), (0x1BE8, 0x1BE9),
   (0x1BED, 0x1BED), (0x1BEF, 0x1BF1), (0x1C2C, 0x1C33), (0x1C36, 0x1C37), (0x1CD0, 0x1CD2),
   (0x1CD4, 0x1CE0), (0x1CE2, 0x1CE8), (0x1CED, 0x1CED), (0x1CF4, 0x1CF4), (0x1CF8, 0x1CF9),
   (0x1DC0, 0x1DFF), (0x20D0, 0x20F0), (0x2CEF, 0x2CF1), (0x2D7F, 0x2D7F), (0x2DE0, 0x2DFF),
   (0x302A, 0x302D), (0x3099, 0x309A), (0xA66F, 0xA672), (0xA674, 0xA67D), (0xA69E, 0xA69F),
   (0xA6F0, 0xA6F1), (0xA802, 0xA802), (0xA806, 0xA806), (0xA80B, 0xA80B), (0xA825, 0xA826),
   (0xA82C, 0xA82C), (0xA8C4, 0xA8C5), (0xA8E0, 0xA8F1), (0xA8FF, 0xA8FF), (0xA926, 0xA92D),
   (0xA947, 0xA951), (0xA980, 0xA982), (0xA9B3, 0xA9B3), (0xA9B6, 0xA9B9), (0xA9BC, 0xA9BD),
   (0xA9E5, 0xA9E5), (0xAA29, 0xAA2E), (0xAA31, 0xAA32), (0xAA35, 0xAA36), (0xAA43, 0xAA43),
   (0xAA4C, 0xAA4C), (0xAA7C, 0xAA7C), (0xAAB0, 0xAAB0), (0xAAB2, 0xAAB4), (0xAAB7, 0xAAB8),
   (0xAABE, 0xAABF), (0xAAC1, 0xAAC1), (0xAAEC, 0xAAED), (0xAAF6, 0xAAF6), (0xABE5, 0xABE5),
   (0xABE8, 0xABE8), (0xABED, 0xABED), (0xFB1E, 0xFB1E), (0xFE20, 0xFE2F), (0x101FD, 0x101FD),
   (0x102E0, 0x102E0), (0x10376, 0x1037A), (0x10A01, 0x10A0F), (0x10A38, 0x10A3F),
   (0x10AE5, 0x10AE6), (0x10D24, 0x10D27), (0x10D69, 0x10D6D), (0x10EAB, 0x10EAC),
   (0x10EFA, 0x10EFF), (0x10F46, 0x10F50), (0x10F82, 0x10F85), (0x11001, 0x11001),
   (0x11038, 0x11046), (0x11070, 0x11070), (0x11073, 0x11074), (0x1107F, 0x11081),
   (0x110B3, 0x110B6), (0x110B9, 0x110BA), (0x110C2, 0x110C2), (0x11100, 0x11102),
   (0x11127, 0x1112B), (0x1112D, 0x11134), (0x11173, 0x11173), (0x11180, 0x11181),
   (0x111B6, 0x111BE), (0x111C9, 0x111CC), (0x111CF, 0x111CF), (0x1122F, 0x11231),
   (0x11234, 0x11234), (0x11236, 0x11237), (0x1123E, 0x1123E), (0x11241, 0x11241),
   (0x112DF, 0x112DF), (0x112E3, 0x112EA), (0x11300, 0x11301), (0x1133B, 0x1133C),
   (0x11340, 0x11340), (0x11366, 0x11374), (0x113BB, 0x113C0), (0x113CE, 0x113CE),
   (0x113D0, 0x113D0), (0x113D2, 0x113D2), (0x113E1, 0x113E2), (0x11438, 0x1143F),
   (0x11442, 0x11444), (0x11446, 0x11446), (0x1145E, 0x1145E), (0x114B3, 0x114B8),
   (0x114BA, 0x114BA), (0x114BF, 0x114C0), (0x114C2, 0x114C3), (0x115B2, 0x115B5),
   (0x115BC, 0x115BD), (0x115BF, 0x115C0), (0x115DC, 0x115DD), (0x11633, 0x1163A),
   (0x1163D, 0x1163D), (0x1163F, 0x11640), (0x116AB, 0x116AB), (0x116AD, 0x116AD),
   (0x116B0, 0x116B5), (0x116B7, 0x116B7), (0x1171D, 0x1171F), (0x11722, 0x11725),
   (0x11727, 0x1172B), (0x1182F, 0x11837), (0x11839, 0x1183A), (0x1193B, 0x1193C),
   (0x1193E, 0x1193E), (0x11943, 0x11943), (0x119D4, 0x119DB), (0x119E0, 0x119E0),
   (0x11A01, 0x11A06), (0x11A09, 0x11A0A), (0x11A33, 0x11A38), (0x11A3B, 0x11A3E),
   (0x11A47, 0x11A47), (0x11A51, 0x11A56), (0x11A59, 0x11A5B), (0x11A8A, 0x11A96),
   (0x11A98, 0x11A99), (0x11B60, 0x11B60), (0x11B62, 0x11B64), (0x11B66, 0x11B66),
   (0x11C30, 0x11C3D), (0x11C92, 0x11CA7), (0x11CAA, 0x11CB0), (0x11CB2, 0x11CB3),
   (0x11CB5, 0x11CB6), (0x11D31, 0x11D45), (0x11D47, 0x11D47), (0x11D90, 0x11D91),
   (0x11D95, 0x11D95), (0x11D97, 0x11D97), (0x11EF3, 0x11EF4), (0x11F00, 0x11F01),
   (0x11F36, 0x11F3A), (0x11F40, 0x11F40), (0x11F42, 0x11F42), (0x11F5A, 0x11F5A),
   (0x13440, 0x13440), (0x13447, 0x13455), (0x1611E, 0x16129), (0x1612D, 0x1612F),
   (0x16AF0, 0x16AF4), (0x16B30, 0x16B36), (0x16F4F, 0x16F4F), (0x16F8F, 0x16F92),
   (0x16FE4, 0x16FE4), (0x1BC9D, 0x1BC9E), (0x1CF00, 0x1CF46), (0x1D167, 0x1D169),
   (0x1D17B, 0x1D182), (0x1D185, 0x1D18B), (0x1D1AA, 0x1D1AD), (0x1D242, 0x1D244),
   (0x1DA00, 0x1DA36), (0x1DA3B, 0x1DA6C), (0x1DA75, 0x1DA75), (0x1DA84, 0x1DA84),
   (0x1DA9B, 0x1DAAF), (0x1E000, 0x1E08F), (0x1E130, 0x1E136), (0x1E2AE, 0x1E2AE),
   (0x1E2EC, 0x1E2EF), (0x1E4EC, 0x1E4EF), (0x1E5EE, 0x1E5EF), (0x1E6E3, 0x1E6E3),
   (0x1E6E6, 0x1E6E6), (0x1E6EE, 0x1E6EF), (0x1E6F5, 0x1E6F5), (0x1E8D0, 0x1E8D6),
   (0x1E944, 0x1E94A)]

def neutral : List (Nat × Nat) :=
  [(0x0, 0x8), (0xE, 0x1B), (0x21, 0x2F), (0x3A, 0x60), (0x7B, 0xD7), (0xF7, 0xF7), (0x2B9, 0x2BA),
   (0x2C2, 0x2CF), (0x2D2, 0x2ED), (0x2EF, 0x2FF), (0x375, 0x375), (0x3F6, 0x3F6), (0x58A, 0x58F),
   (0x606, 0x607), (0x609, 0x60A), (0x60C, 0x60C), (0x60E, 0x60F), (0x66A, 0x66A), (0x6DE, 0x6DE),
   (0x6E9, 0x6E9), (0x7F6, 0x7F9), (0x9F2, 0x9F3), (0x9FB, 0x9FB), (0xAF1, 0xAF1), (0xBF3, 0xBFA),
   (0xC78, 0xC7E), (0xE3F, 0xE3F), (0xF3A, 0xF3D), (0x1390, 0x1399), (0x1400, 0x1400),
   (0x169B, 0x169C), (0x17DB, 0x17DB), (0x17F0, 0x180A), (0x1940, 0x1945), (0x19DE, 0x19FF),
   (0x1B4E, 0x1B4F), (0x1B7F, 0x1B7F), (0x200C, 0x20C1), (0x2104, 0x214D), (0x218A, 0x2335),
   (0x237B, 0x2394), (0x2396, 0x26AB), (0x26AD, 0x27FF), (0x2900, 0x2BFF), (0x2CE5, 0x2CEA),
   (0x2CF9, 0x2CFF), (0x2E00, 0x3004), (0x3008, 0x3020), (0x3030, 0x3030), (0x3037, 0x3037),
   (0x303D, 0x303F), (0x30A0, 0x30A0), (0x30FB, 0x30FB), (0x31C0, 0x31E5), (0x4DC0, 0x4DFF),
   (0xA490, 0xA4C6), (0xA60D, 0xA60F), (0xA673, 0xA673), (0xA67E, 0xA67F), (0xA700, 0xA721),
   (0xA788, 0xA788), (0xA828, 0xA82B), (0xA838, 0xA839), (0xA874, 0xA877), (0xAB6A, 0xAB6B),
   (0xFBC3, 0xFDFF), (0xFE45, 0xFE46), (0x10101, 0x10101), (0x10140, 0x1018C), (0x10190, 0x101A0),
   (0x1091F, 0x1091F), (0x10B39, 0x10B3F), (0x10D6E, 0x10D6E), (0x10D8E, 0x10D8F),
   (0x10ED0, 0x10ED8), (0x11052, 0x11065), (0x113D4, 0x113D8), (0x11660, 0x1166C),
   (0x11BE1, 0x11BE1), (0x11FD5, 0x11FF1), (0x16D6D, 0x16D6F), (0x16FE2, 0x16FE2),
   (0x1CC00, 0x1CEF0), (0x1D1E9, 0x1D241), (0x1D245, 0x1D245), (0x1D300, 0x1D356),
   (0x1E2FF, 0x1E2FF), (0x1E5FF, 0x1E5FF), (0x1EEF0, 0x1F12F), (0x1F16D, 0x1F16F),
   (0x1F1AD, 0x1F1AD), (0x1F260, 0x1FBFA)]

def joinsNext : List (Nat × Nat) :=
  [(0x620, 0x620), (0x626, 0x626), (0x628, 0x628), (0x62A, 0x62E), (0x633, 0x63F), (0x641, 0x647),
   (0x649, 0x64A), (0x66E, 0x66F), (0x679, 0x687), (0x69A, 0x6BF), (0x6C1, 0x6C2), (0x6CC, 0x6CC),
   (0x6CE, 0x6CE), (0x6D0, 0x6D1), (0x6FA, 0x6FC), (0x6FF, 0x6FF), (0x712, 0x714), (0x71A, 0x71D),
   (0x71F, 0x727), (0x729, 0x729), (0x72B, 0x72B), (0x72D, 0x72E), (0x74E, 0x758), (0x75C, 0x76A),
   (0x76D, 0x770), (0x772, 0x772), (0x775, 0x777), (0x77A, 0x77F), (0x7CA, 0x7EA), (0x841, 0x845),
   (0x848, 0x848), (0x84A, 0x853), (0x855, 0x855), (0x860, 0x860), (0x862, 0x865), (0x868, 0x868),
   (0x886, 0x886), (0x889, 0x88D), (0x88F, 0x88F), (0x8A0, 0x8A9), (0x8AF, 0x8B0), (0x8B3, 0x8B8),
   (0x8BA, 0x8C8), (0x1807, 0x1807), (0x1820, 0x1878), (0x1887, 0x18A8), (0x18AA, 0x18AA),
   (0xA840, 0xA872), (0x10AC0, 0x10AC4), (0x10ACD, 0x10ACD), (0x10AD3, 0x10ADC),
   (0x10ADE, 0x10AE0), (0x10AEB, 0x10AEE), (0x10B80, 0x10B80), (0x10B82, 0x10B82),
   (0x10B86, 0x10B88), (0x10B8A, 0x10B8B), (0x10B8D, 0x10B8D), (0x10B90, 0x10B90),
   (0x10BAD, 0x10BAE), (0x10D00, 0x10D21), (0x10D23, 0x10D23), (0x10EC3, 0x10EC4),
   (0x10EC6, 0x10EC7), (0x10F30, 0x10F32), (0x10F34, 0x10F44), (0x10F51, 0x10F53),
   (0x10F70, 0x10F73), (0x10F76, 0x10F81), (0x10FB0, 0x10FB0), (0x10FB2, 0x10FB3),
   (0x10FB8, 0x10FB8), (0x10FBB, 0x10FBC), (0x10FBE, 0x10FBF), (0x10FC1, 0x10FC1),
   (0x10FC4, 0x10FC4), (0x10FCA, 0x10FCB), (0x1E922, 0x1E943)]

def joinsPrevious : List (Nat × Nat) :=
  [(0x620, 0x620), (0x622, 0x63F), (0x641, 0x64A), (0x66E, 0x66F), (0x671, 0x673), (0x679, 0x6D3),
   (0x6D5, 0x6D5), (0x6EE, 0x6EF), (0x6FA, 0x6FC), (0x6FF, 0x6FF), (0x710, 0x710), (0x712, 0x72F),
   (0x74D, 0x77F), (0x7CA, 0x7EA), (0x840, 0x858), (0x860, 0x860), (0x862, 0x865), (0x867, 0x882),
   (0x886, 0x886), (0x889, 0x88F), (0x8A0, 0x8AC), (0x8AE, 0x8C8), (0x1807, 0x1807),
   (0x1820, 0x1878), (0x1887, 0x18A8), (0x18AA, 0x18AA), (0xA840, 0xA871), (0x10AC0, 0x10AC5),
   (0x10AC7, 0x10AC7), (0x10AC9, 0x10ACA), (0x10ACE, 0x10AD6), (0x10AD8, 0x10AE1),
   (0x10AE4, 0x10AE4), (0x10AEB, 0x10AEF), (0x10B80, 0x10B91), (0x10BA9, 0x10BAE),
   (0x10D01, 0x10D23), (0x10EC2, 0x10EC4), (0x10EC6, 0x10EC7), (0x10F30, 0x10F44),
   (0x10F51, 0x10F54), (0x10F70, 0x10F81), (0x10FB0, 0x10FB0), (0x10FB2, 0x10FB6),
   (0x10FB8, 0x10FBF), (0x10FC1, 0x10FC4), (0x10FC9, 0x10FCA), (0x1E922, 0x1E943)]

/-- Characters that do not count where letters are joined. -/
def transparent : List (Nat × Nat) :=
  [(0x300, 0x36F), (0x483, 0x489), (0x591, 0x5BD), (0x5BF, 0x5BF), (0x5C1, 0x5C2), (0x5C4, 0x5C5),
   (0x5C7, 0x5C7), (0x610, 0x61A), (0x64B, 0x65F), (0x670, 0x670), (0x6D6, 0x6DC), (0x6DF, 0x6E4),
   (0x6E7, 0x6E8), (0x6EA, 0x6ED), (0x711, 0x711), (0x730, 0x74A), (0x7A6, 0x7B0), (0x7EB, 0x7F3),
   (0x7FD, 0x7FD), (0x816, 0x819), (0x81B, 0x823), (0x825, 0x827), (0x829, 0x82D), (0x859, 0x85B),
   (0x897, 0x89F), (0x8CA, 0x902), (0x93A, 0x93A), (0x93C, 0x93C), (0x941, 0x948), (0x94D, 0x94D),
   (0x951, 0x957), (0x962, 0x963), (0x981, 0x981), (0x9BC, 0x9BC), (0x9C1, 0x9C4), (0x9CD, 0x9CD),
   (0x9E2, 0x9E3), (0x9FE, 0xA02), (0xA3C, 0xA3C), (0xA41, 0xA51), (0xA70, 0xA71), (0xA75, 0xA75),
   (0xA81, 0xA82), (0xABC, 0xABC), (0xAC1, 0xAC8), (0xACD, 0xACD), (0xAE2, 0xAE3), (0xAFA, 0xB01),
   (0xB3C, 0xB3C), (0xB3F, 0xB3F), (0xB41, 0xB44), (0xB4D, 0xB56), (0xB62, 0xB63), (0xB82, 0xB82),
   (0xBC0, 0xBC0), (0xBCD, 0xBCD), (0xC00, 0xC00), (0xC04, 0xC04), (0xC3C, 0xC3C), (0xC3E, 0xC40),
   (0xC46, 0xC56), (0xC62, 0xC63), (0xC81, 0xC81), (0xCBC, 0xCBC), (0xCBF, 0xCBF), (0xCC6, 0xCC6),
   (0xCCC, 0xCCD), (0xCE2, 0xCE3), (0xD00, 0xD01), (0xD3B, 0xD3C), (0xD41, 0xD44), (0xD4D, 0xD4D),
   (0xD62, 0xD63), (0xD81, 0xD81), (0xDCA, 0xDCA), (0xDD2, 0xDD6), (0xE31, 0xE31), (0xE34, 0xE3A),
   (0xE47, 0xE4E), (0xEB1, 0xEB1), (0xEB4, 0xEBC), (0xEC8, 0xECE), (0xF18, 0xF19), (0xF35, 0xF35),
   (0xF37, 0xF37), (0xF39, 0xF39), (0xF71, 0xF7E), (0xF80, 0xF84), (0xF86, 0xF87), (0xF8D, 0xFBC),
   (0xFC6, 0xFC6), (0x102D, 0x1030), (0x1032, 0x1037), (0x1039, 0x103A), (0x103D, 0x103E),
   (0x1058, 0x1059), (0x105E, 0x1060), (0x1071, 0x1074), (0x1082, 0x1082), (0x1085, 0x1086),
   (0x108D, 0x108D), (0x109D, 0x109D), (0x135D, 0x135F), (0x1712, 0x1714), (0x1732, 0x1733),
   (0x1752, 0x1753), (0x1772, 0x1773), (0x17B7, 0x17BD), (0x17C6, 0x17C6), (0x17C9, 0x17D3),
   (0x17DD, 0x17DD), (0x1885, 0x1886), (0x18A9, 0x18A9), (0x1920, 0x1922), (0x1927, 0x1928),
   (0x1932, 0x1932), (0x1939, 0x193B), (0x1A17, 0x1A18), (0x1A1B, 0x1A1B), (0x1A56, 0x1A56),
   (0x1A58, 0x1A60), (0x1A62, 0x1A62), (0x1A65, 0x1A6C), (0x1A73, 0x1A7F), (0x1AB0, 0x1B03),
   (0x1B34, 0x1B34), (0x1B36, 0x1B3A), (0x1B3C, 0x1B3C), (0x1B42, 0x1B42), (0x1B6B, 0x1B73),
   (0x1B80, 0x1B81), (0x1BA2, 0x1BA5), (0x1BA8, 0x1BA9), (0x1BAB, 0x1BAD), (0x1BE6, 0x1BE6),
   (0x1BE8, 0x1BE9), (0x1BED, 0x1BED), (0x1BEF, 0x1BF1), (0x1C2C, 0x1C33), (0x1C36, 0x1C37),
   (0x1CD0, 0x1CD2), (0x1CD4, 0x1CE0), (0x1CE2, 0x1CE8), (0x1CED, 0x1CED), (0x1CF4, 0x1CF4),
   (0x1CF8, 0x1CF9), (0x1DC0, 0x1DFF), (0x20D0, 0x20F0), (0x2CEF, 0x2CF1), (0x2D7F, 0x2D7F),
   (0x2DE0, 0x2DFF), (0x302A, 0x302D), (0x3099, 0x309A), (0xA66F, 0xA672), (0xA674, 0xA67D),
   (0xA69E, 0xA69F), (0xA6F0, 0xA6F1), (0xA802, 0xA802), (0xA806, 0xA806), (0xA80B, 0xA80B),
   (0xA825, 0xA826), (0xA82C, 0xA82C), (0xA8C4, 0xA8C5), (0xA8E0, 0xA8F1), (0xA8FF, 0xA8FF),
   (0xA926, 0xA92D), (0xA947, 0xA951), (0xA980, 0xA982), (0xA9B3, 0xA9B3), (0xA9B6, 0xA9B9),
   (0xA9BC, 0xA9BD), (0xA9E5, 0xA9E5), (0xAA29, 0xAA2E), (0xAA31, 0xAA32), (0xAA35, 0xAA36),
   (0xAA43, 0xAA43), (0xAA4C, 0xAA4C), (0xAA7C, 0xAA7C), (0xAAB0, 0xAAB0), (0xAAB2, 0xAAB4),
   (0xAAB7, 0xAAB8), (0xAABE, 0xAABF), (0xAAC1, 0xAAC1), (0xAAEC, 0xAAED), (0xAAF6, 0xAAF6),
   (0xABE5, 0xABE5), (0xABE8, 0xABE8), (0xABED, 0xABED), (0xFB1E, 0xFB1E), (0xFE20, 0xFE2F),
   (0x101FD, 0x101FD), (0x102E0, 0x102E0), (0x10376, 0x1037A), (0x10A01, 0x10A0F),
   (0x10A38, 0x10A3F), (0x10AE5, 0x10AE6), (0x10D24, 0x10D27), (0x10D69, 0x10D6D),
   (0x10EAB, 0x10EAC), (0x10EFA, 0x10EFF), (0x10F46, 0x10F50), (0x10F82, 0x10F85),
   (0x11001, 0x11001), (0x11038, 0x11046), (0x11070, 0x11070), (0x11073, 0x11074),
   (0x1107F, 0x11081), (0x110B3, 0x110B6), (0x110B9, 0x110BA), (0x110C2, 0x110C2),
   (0x11100, 0x11102), (0x11127, 0x1112B), (0x1112D, 0x11134), (0x11173, 0x11173),
   (0x11180, 0x11181), (0x111B6, 0x111BE), (0x111C9, 0x111CC), (0x111CF, 0x111CF),
   (0x1122F, 0x11231), (0x11234, 0x11234), (0x11236, 0x11237), (0x1123E, 0x1123E),
   (0x11241, 0x11241), (0x112DF, 0x112DF), (0x112E3, 0x112EA), (0x11300, 0x11301),
   (0x1133B, 0x1133C), (0x11340, 0x11340), (0x11366, 0x11374), (0x113BB, 0x113C0),
   (0x113CE, 0x113CE), (0x113D0, 0x113D0), (0x113D2, 0x113D2), (0x113E1, 0x113E2),
   (0x11438, 0x1143F), (0x11442, 0x11444), (0x11446, 0x11446), (0x1145E, 0x1145E),
   (0x114B3, 0x114B8), (0x114BA, 0x114BA), (0x114BF, 0x114C0), (0x114C2, 0x114C3),
   (0x115B2, 0x115B5), (0x115BC, 0x115BD), (0x115BF, 0x115C0), (0x115DC, 0x115DD),
   (0x11633, 0x1163A), (0x1163D, 0x1163D), (0x1163F, 0x11640), (0x116AB, 0x116AB),
   (0x116AD, 0x116AD), (0x116B0, 0x116B5), (0x116B7, 0x116B7), (0x1171D, 0x1171D),
   (0x1171F, 0x1171F), (0x11722, 0x11725), (0x11727, 0x1172B), (0x1182F, 0x11837),
   (0x11839, 0x1183A), (0x1193B, 0x1193C), (0x1193E, 0x1193E), (0x11943, 0x11943),
   (0x119D4, 0x119DB), (0x119E0, 0x119E0), (0x11A01, 0x11A0A), (0x11A33, 0x11A38),
   (0x11A3B, 0x11A3E), (0x11A47, 0x11A47), (0x11A51, 0x11A56), (0x11A59, 0x11A5B),
   (0x11A8A, 0x11A96), (0x11A98, 0x11A99), (0x11B60, 0x11B60), (0x11B62, 0x11B64),
   (0x11B66, 0x11B66), (0x11C30, 0x11C3D), (0x11C3F, 0x11C3F), (0x11C92, 0x11CA7),
   (0x11CAA, 0x11CB0), (0x11CB2, 0x11CB3), (0x11CB5, 0x11CB6), (0x11D31, 0x11D45),
   (0x11D47, 0x11D47), (0x11D90, 0x11D91), (0x11D95, 0x11D95), (0x11D97, 0x11D97),
   (0x11EF3, 0x11EF4), (0x11F00, 0x11F01), (0x11F36, 0x11F3A), (0x11F40, 0x11F40),
   (0x11F42, 0x11F42), (0x11F5A, 0x11F5A), (0x13440, 0x13440), (0x13447, 0x13455),
   (0x1611E, 0x16129), (0x1612D, 0x1612F), (0x16AF0, 0x16AF4), (0x16B30, 0x16B36),
   (0x16F4F, 0x16F4F), (0x16F8F, 0x16F92), (0x16FE4, 0x16FE4), (0x1BC9D, 0x1BC9E),
   (0x1CF00, 0x1CF46), (0x1D167, 0x1D169), (0x1D17B, 0x1D182), (0x1D185, 0x1D18B),
   (0x1D1AA, 0x1D1AD), (0x1D242, 0x1D244), (0x1DA00, 0x1DA36), (0x1DA3B, 0x1DA6C),
   (0x1DA75, 0x1DA75), (0x1DA84, 0x1DA84), (0x1DA9B, 0x1DAAF), (0x1E000, 0x1E08F),
   (0x1E130, 0x1E136), (0x1E2AE, 0x1E2AE), (0x1E2EC, 0x1E2EF), (0x1E4EC, 0x1E4EF),
   (0x1E5EE, 0x1E5EF), (0x1E6E3, 0x1E6E3), (0x1E6E6, 0x1E6E6), (0x1E6EE, 0x1E6EF),
   (0x1E6F5, 0x1E6F5), (0x1E8D0, 0x1E8D6), (0x1E944, 0x1E94B)]

end RepoBrowser.Http.Host
