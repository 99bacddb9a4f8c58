/-!
Characters beyond ASCII in the names of hosts: which kind each one is of, and which ones stand for
others. Which characters there are follows version 15 of the table for international names. Marks
and directions follow version 13 of the character database, and newer characters have neither; the
letters that join in writing are of an older version still. `Character` says what the kinds mean.
-/

namespace Suppression.FileUrl

/-- The kinds of all characters from U+0080 on: a letter for the kind, and after it how many
characters in a row are of it, if there are more than one. -/
def kindRuns : String :=
  "x33o7xoao2ioxo2a2xLo2xa2oy3oL23oL7l24ol8LlLlLlLlLlLlLlLlLlLlLlLlLlLlLlLlLlLlLlLlLlLlLlLlyl" ++
  "a2LlLl2LlLlLly2LlLlLlLlyLlLlLlLlLlLlLlLlLlLlLlLlLlLlLlLlLlLlLlLlLlLlLlL2lLlLlalL2lLlL2lL3" ++
  "l2L4lL2lL3l3L2lL2lLlLlL2lLl2LlL2lL3lLlL2l3Ll7y3a6LlLlLlLlLlLlLlLl2LlLlLlLlLlLlLlLlLl2a3Ll" ++
  "L3lLlLlLlLlLlLlLlLlLlLlLlLlLlLlLlLlLlLlLlLlLlLlLlLlLlLlLlLlLl7L2lL2l2LlL4lLlLlLlLl97aLa2L3" ++
  "a2o2l7o14l2o6x6o2La3Lo9lo17n64y2ny3n9in32LlLlOoLlx3l3aLx6LOL3xLxL2lL17xL9l35L8lLlLlLlLlLlL" ++
  "lLlLlLlLlLlLlL3lL2oLlL2l2L51l48LlLlLlLlLlLlLlLlLlLlLlLlLlLlLlLlLl2n7LlLlLlLlLlLlLlLlLlLlLl" ++
  "LlLlLlLlLlLlLlLlLlLlLlLlLlLlLlLlxLlLlLlLlLlLlLl2LlLlLlLlLlLlLlLlLlLlLlLlLlLlLlLlLlLlLlLlLl" ++
  "LlLlLlLlLlLlLlLlLlLlLlLlLlLlLlLlLlLlLlLlLlLlLlLlLlLlLlxL38x2l46Ll2ox2o3xn45rnrn2rn2rnx8r27" ++
  "x4r6x17o2ro2roro2n11rxur2trs4tstst5s4t13rt7st2n21d10od2rt2ns3ry3Bt15s18t38st2s9tstst2s2rs" ++
  "n7xon6r2n2on4s2e10t3r2tr14x2snt3s5t4st9ststst2sn27x2st11s3r74n11rx14r43n9r2o4rx2nr24n4rn9r" ++
  "n3rn5x2r15xr16t4str3n3x2rxr11x5u31x9u8trt8s3r8ur18u11n15xn32cl54ncnlc3n8c4wc2ln7y8l2n2l29n" ++
  "c2xl8x2l2x2l22xl7xlx3l4x2nlc3n4x2c2x2c2wlx8cx4y2xyl2n2x2l12o2l7ol2nx2n2cxl6x4l2x2l22xl7xly" ++
  "xlyxl2x2nxc3n2x4n2x2n2wx3nx7y3lxyx7l10n2l3nlx10n2cxl9xl3xl22xl7xl2xl5x2nlc3n5xn2cxc2wx2l" ++
  "x15l2n2x2l11ox7ln6xnc2xl8x2l2x2l22xl7xl2xl5x2nlcncn4x2c2x2c2wx7n2cx4y2xl3n2x2l18x10nlxl6x3" ++
  "l3xl4x3l2xlxl2x3l2x3l3x3l12x4c2nc2x3c3xc3wx2lx6cx14l13o8x5nc3nl8xl3xl23xl16x2uln3c4xn3xn3w" ++
  "x7n2xl3x2ux2l2n2x2l10x7lo7l2nc2l9xl3xl23xl10xl5x2nlc7xc3xc2nwx7c2x6ulxl2n2x2l10xl2ux12n2c2" ++
  "l9xl3xl41w2lc3n4xc3xc3wl2x4l3cl10n2x2l26xnc2xl18x3l24xl9xlx2l7x3wx4c3n3xnxc8x6l10x2c2lx12" ++
  "l48nlyn6wx4ol7n8l13x37l2xlxl5xl24xlxl10nlyn6wn2lx2l5xlxn6uxl10x2L2l2x32l12Ll11n2l27nlnlno4" ++
  "c2l3yl4xl4yl4yl4yl4yl12yl3x4n2yny5n5cnyn2wln2l5n6yn4xn4yn4yn4yn4yn12yn3xl8nl6xl13x37l43c2" ++
  "n4cn6cw2c2n2l23c2n2l4n3lc3l2c7l3n4l13nc2n2c6nlcl10c3nl2x39Lx5Lx2l44Ll98x2l232xl4x2l7xlxl4" ++
  "x2l41xl4x2l33xl4x2l7xlxl4x2l15xl57xl4x2l67x2n3l29x3l16o10x6l86x2L6x2ol639xl26o2x3l89x7l13u" ++
  "l4n2wux9ul18n2wl2x9l18n2x12l13xl3xn2x12l52x2cn7c8nc2n9wnl7olnx2l10x6o10x6o6xgo3i3xil10x6" ++
  "m88lx7l5n2m34nmx5l70x10l31xn3c4n2c3x4c2nc6n3x4ox3o2l40x2l5x11l44x4l26x6l11x3o34l23n2c2nx2" ++
  "l55cncn7xwcnc2n8c6n10x2nl10x6l10x6l14x2n17u14x49n4cl47ncn5cnc5ncvl7ux3l27n9l9u2xn2cl30cn4" ++
  "c2n2vwn2l56ncn2c3ncn3v2x8l40c8n8c2n2x3l15x3l51L9x7L43x2L3l8x8n3ln13cn7l4nl6nl2cn2lx5l44aLa" ++
  "la2La8laLa6L3a3L3ala2LaL3a3L2aL6a4L5l13Ll34LaL3aL26aL4n58un5LlLlLlLlLlLlLlLlLlLlLlLlLlLlLl" ++
  "LlLlLlLlLlLlLlLlLlLlLlLlLlLlLlLlLlLlLlLlLlLlLlLlLlLlLlLlLlLlLlLlLlLlLlLlLlLlLlLlLlLlLlLlLl" ++
  "LlLlLlLlLlLlLlLlLlLlLlLlLlLlLl5yLl2alLlLlLlLlLlLlLlLlLlLlLlLlLlLlLlLlLlLlLlLlLlLlLlLlLlLlL" ++
  "lLlLlLlLlLlLlLlLlLlLlLlLlLlLlLlLlLlLlLlLlLl9L8l6x2L6x2l8L8l8L8l6x2L6x2l8xLxLxLxLl8L8lLlLlL" ++
  "lLlLlLlLx2L48l2L3xlL6xLx3L3xlL6x3l3Lx2l2L4x4l3Ll4L5x2ax2L3xlL6x14ikjx2oOo5xo12x3ox8o3O2oO2" ++
  "o4aoxo8x3o13Oo7xix3ix11a2x2a7Oa15Oa3xa4La8x3o8ao23ux15n33x17ayox2Loya5La4oa2o2a5o2a3oaoLoa" ++
  "oaLa2oa3xa2R4aoaL4Oo4a5o4l2y16a32l3xl5yo2x4o156O2oO2o248O2o11l69o26lo145x25o11x21a40x20a79" ++
  "o449lo339l256o268Oo103xa2o101yo151x2o32xo105L47Ul47uLlL3l2LlLlLlL4lLl2Ll6a2L3lLlLlLlLlLlLl" ++
  "LlLlLlLlLlLlLlLlLlLlLlLlLlLlLlLlLlLlLlLlLlLlLlLlLlLlLlLlLlLlLlLlLlLlLlLlLlLlLlLlLlLlLl2o6L" ++
  "lLln3Llx5o7l38xlx5lx2l56x7Llx14wl23x9l7xl7xl7xl7xl7xl7xl7xl7xn32o83u11x34o26xo4Lo83Lx12" ++
  "L214x43oao2l3o25l9n4c2ol5OoL3l2o3xl86x2n2x2l2Lol90ol3Lx5l43xL51xL42xl2L14l32o36x12l16y31x" ++
  "y36L4l8a16L31lL49a15y12a4L136y25a10L5a2ya9y2a7ya5ya11y2a5y2a2ya3ya5ya3y2xa3yxa16xa5y33a" ++
  "l6592o64l20989u3l1165x3o55x9l317o3l28x20LlLlLlLlLlLlLlLlLlLlLlLlLlLlLlLlLlLlLlLlLlLlLl2n4o" ++
  "n10o2LlLlLlLlLlLlLlLlLlLlLlLlLlLlL2n2l80n2l6x8o34LlLlLlLlLlLlLl3LlLlLlLlLlLlLlLlLlLlLlLlLl" ++
  "LlLlLlLlLlLlLlLlLlLlLlLlLlLlLlLlLlLlLl8LlLlL2lLlLlLlLlol2LlLl2LlLl3LlLlLlLlLlLlLlLlLlLlL5l" ++
  "L5lLlLlLlLlLlUuLlL4lLlx5UuxuxuUuUux24a3Ll2L2l8nl3wl4nl23c2n2co4nx3l8o2x6m50plo4x8c2l50c16w" ++
  "nx8l12x6n18l13nl38n8l25n11cvx11l30x3n3cl47nc2n4c2n2c2vl13xl11x4l7nl25xl41n6c2n2c2n2x9l3nl8" ++
  "ncx2l10x2l31cncl50nln3l2n2l5n2lnlx24l16cn2c2l5cwx10l6x2l6x2l6x9l7xl7xl44L4l9Lo2x4L80l35c2n" ++
  "c2nc2lcwx2l10x6l11172x12l23x4l49x8452L270l2LlLl2L10lLlLl2L2l3L68x2L106x38a7x12L5x5ynyR9a" ++
  "y13xy5xyxy2xy2xy10S2T48S12T22S2T8S4r16ux16T4S6yS6T6B18T4B91y3x6B44yB72yB24y3B71y2o2u16B64" ++
  "x2B54x7ux32B10x2Bou2i16aOx2a2xO2x7n16xO2a6O12o2x6a4Ox2ax2aOa4O2xa7x2ax7yxrx3yxyxyxyxyRS8T4" ++
  "S2T4S2T20S8T60S2T6B8x2ixa2xaxa9xa10xa4x2a26x4a29xa2O2aO4L56y2xL30x3L6x2L6x2L6x2L3x3O3xO3x" ++
  "O7x17l12xl26xl19xl2xl15x2l14x34l123x5lolx4l45x3l9o77l2xo13x3ox47l45nx130l29x3l49x15ne27x4" ++
  "l36x9l30x5l38n5x5l30xl37x4l14x42L40l118x2l10x6L36x4l36x4l40x8l52x11lU11xU15xU7xU2xu11xu15x" ++
  "u7xu2x67l311x9l22x10l8x24uL5xL21UL2ULUL3aLUL9xL7U2x69r6x2rxr44xr2x3rx2r23xr72x8r9x48r19xr2" ++
  "x5r33x3or26x5rx64r56x4r20x2r47n3xn2x5n4r4xr3xr29x2n3x4wr9x7r9x7r64x32r37n2x4r12x9r54x3o7" ++
  "r22x2r27x5r26x7r4x12r7x80r73x55R51x13r51x7r42n4x8d10x294d31xr42xn2rx2r2x75u3r40x8r22n11r9" ++
  "x22u26x38r28x20r23x9cncl53n14wl7x4o20l10u6x9wn2cl45c3n4c2wnl2xl4ux13l25x7l10x6n3l36n5cn6w2" ++
  "xl15c2lx8l35nl3x9n2cl48c3n9cvl8n4lcnl16xl20x11l18xl25c3n3c2nvn2l6nu3x62l7xlxl4xl15xl11x6" ++
  "l47nc3n7wx5l10x6n2c2xl8x2l2x2l22xl7xl2xl5xn2lc2nc4x2c2x2c2vx2lx6cx5l5c2x2n7x3n5x139l53c3n8" ++
  "c2wn2cnl21xlnl3x30l48c3n6cnc4n2cwnl4x8l10x166l47c3n4x2c4n2cwnl27n2x34l48c3n8c2ncwnl4x11l10" ++
  "x6o13x19l43ncnc2n6vnlux6l10x54l27x2n3c2n4cn4wx4l16u7x185l44c3n9cwnlx100L32l51x12l8x2lx2l8x" ++
  "l2xl24c6xc2x2n2cnlclcnl3x9l10x70l8x2l39c3n4x2n2c4wl3cx27ln6c2n2l40nwn4cln4l8wx8ln6c2n3l46" ++
  "n13cnwl9x13u16l57x7u10x246l9xl37cn7xn6cvl6x10l29x3l32x2n22xcn7cn2cn2x73l7xl2xl38n6x3nxn2x" ++
  "n5w2lnx8l10x6l6xl2xl32c5xn2xc2ncwlx7l10x310l19n2c2l2x7u17xu41x3u28x86lx15l21o29x13l923x102" ++
  "l111xl5x11l196x2636u99x13l1071ux16u22x4010l583x8633l569x7l31xl10x4l2u79xu10x6l30x2n5lx10" ++
  "l48n7l15x10l10xl7xl21x5l19x688L32l59x101l75x4nlc55x7n4l13x64l2olnx11c2x14l6136x8l1238x42l9" ++
  "x8935u4xu7xu2xl287u4x15ux29l3x2ux14l4x8l396x2308l107x5l13x3l9x7l10x2ln2li4x4700u46x2u23x9" ++
  "u116x60l246x10l39x2l53y7c2n3l3c6x8n8l2n7l30n4l13y6l40u2x21o66n3ox122u20x12l20x12o87x9l25" ++
  "x135a85xa71xa2x2ax2a2x2a4xa12xaxa7xa65xa4x2a8xa7xa28xa4xa5xax3a7xa338L2x2L25OL25OL31OL25O" ++
  "L31OL25OL31OL25OL31OL25OL8x2a50l512n55l4n50l8nl14nl7x15n5xn15x1104u31x6u6x213n7xn17x2n7xn2" ++
  "xn5x5L62x33ux112l45x3n7l7x2l10x4l2x320u31x17l44n4l10x5ox464u42x742u7xu4xu2xu15xr197x2r9n7" ++
  "x41R34r34n7rx4r10x4r2x785r68x76r61x194ST2SxS2T12ST4ST7xT2xTx2TxT10xT4xTxTx6Tx4TxTxTxT3xT2x" ++
  "Tx2TxTxTxTxTxT2xTx2T4xT7xT4xT4xTxST2STS2T3xT8ST4ST3x5T2SxS2T3xT8ST4ST3x52o2x270o44x4o100" ++
  "x12o15x2o15xo15xo37x11a10o5a26ya4oa32l26a3o3l32al28ox56l26L3x13L44x4y9x7L2x14o6x154o984x4" ++
  "u4o13x3o13x3o116u3x4u5o89ux6o12x4ux15o12x4o56x8o10x6o40x8o30x2o2x78o121uo82uo135x12o14x2o5" ++
  "u3o3u2x3o7u2x7o25u7o7u7xuo3u3x8u2o7u5x4u9x7u9x7o147xo55x37a10x1030l42718u2x32l4149u5x6l222" ++
  "x2l5762x14l7473x3103L104xL11xL170xL63xL95xL94x1506l4939x5u4192x712016i240x196112"

/-- Characters in a row that stand for characters of ASCII in a row; of a longer text only one
character stands for it. -/
structure SpelledRun where
  first : Nat
  count : Nat
  text : String

def spelledRuns : List SpelledRun := [
  ⟨0xaa, 1, "a"⟩, ⟨0xb2, 2, "2"⟩, ⟨0xb9, 1, "1"⟩, ⟨0xba, 1, "o"⟩, ⟨0x132, 1, "ij"⟩,
  ⟨0x133, 1, "ij"⟩, ⟨0x17f, 1, "s"⟩, ⟨0x1c7, 1, "lj"⟩, ⟨0x1c8, 1, "lj"⟩, ⟨0x1c9, 1, "lj"⟩,
  ⟨0x1ca, 1, "nj"⟩, ⟨0x1cb, 1, "nj"⟩, ⟨0x1cc, 1, "nj"⟩, ⟨0x1f1, 1, "dz"⟩, ⟨0x1f2, 1, "dz"⟩,
  ⟨0x1f3, 1, "dz"⟩, ⟨0x2b0, 1, "h"⟩, ⟨0x2b2, 1, "j"⟩, ⟨0x2b3, 1, "r"⟩, ⟨0x2b7, 1, "w"⟩,
  ⟨0x2b8, 1, "y"⟩, ⟨0x2e1, 1, "l"⟩, ⟨0x2e2, 1, "s"⟩, ⟨0x2e3, 1, "x"⟩, ⟨0x37e, 1, ";"⟩,
  ⟨0x1d2c, 1, "a"⟩, ⟨0x1d2e, 1, "b"⟩, ⟨0x1d30, 2, "d"⟩, ⟨0x1d33, 8, "g"⟩, ⟨0x1d3c, 1, "o"⟩,
  ⟨0x1d3e, 1, "p"⟩, ⟨0x1d3f, 1, "r"⟩, ⟨0x1d40, 2, "t"⟩, ⟨0x1d42, 1, "w"⟩, ⟨0x1d43, 1, "a"⟩,
  ⟨0x1d47, 1, "b"⟩, ⟨0x1d48, 2, "d"⟩, ⟨0x1d4d, 1, "g"⟩, ⟨0x1d4f, 1, "k"⟩, ⟨0x1d50, 1, "m"⟩,
  ⟨0x1d52, 1, "o"⟩, ⟨0x1d56, 1, "p"⟩, ⟨0x1d57, 2, "t"⟩, ⟨0x1d5b, 1, "v"⟩, ⟨0x1d62, 1, "i"⟩,
  ⟨0x1d63, 1, "r"⟩, ⟨0x1d64, 2, "u"⟩, ⟨0x1d9c, 1, "c"⟩, ⟨0x1da0, 1, "f"⟩, ⟨0x1dbb, 1, "z"⟩,
  ⟨0x1e9e, 1, "ss"⟩, ⟨0x1fef, 1, "`"⟩, ⟨0x203c, 1, "!!"⟩, ⟨0x2070, 1, "0"⟩, ⟨0x2071, 1, "i"⟩,
  ⟨0x2074, 6, "4"⟩, ⟨0x207a, 1, "+"⟩, ⟨0x207c, 1, "="⟩, ⟨0x207d, 2, "("⟩, ⟨0x207f, 1, "n"⟩,
  ⟨0x2080, 10, "0"⟩, ⟨0x208a, 1, "+"⟩, ⟨0x208c, 1, "="⟩, ⟨0x208d, 2, "("⟩, ⟨0x2090, 1, "a"⟩,
  ⟨0x2091, 1, "e"⟩, ⟨0x2092, 1, "o"⟩, ⟨0x2093, 1, "x"⟩, ⟨0x2095, 1, "h"⟩, ⟨0x2096, 4, "k"⟩,
  ⟨0x209a, 1, "p"⟩, ⟨0x209b, 2, "s"⟩, ⟨0x20a8, 1, "rs"⟩, ⟨0x2102, 1, "c"⟩, ⟨0x210a, 2, "g"⟩,
  ⟨0x210c, 1, "h"⟩, ⟨0x210d, 1, "h"⟩, ⟨0x210e, 1, "h"⟩, ⟨0x2110, 1, "i"⟩, ⟨0x2111, 1, "i"⟩,
  ⟨0x2112, 1, "l"⟩, ⟨0x2113, 1, "l"⟩, ⟨0x2115, 1, "n"⟩, ⟨0x2116, 1, "no"⟩, ⟨0x2119, 3, "p"⟩,
  ⟨0x211c, 1, "r"⟩, ⟨0x211d, 1, "r"⟩, ⟨0x2120, 1, "sm"⟩, ⟨0x2121, 1, "tel"⟩, ⟨0x2122, 1, "tm"⟩,
  ⟨0x2124, 1, "z"⟩, ⟨0x2128, 1, "z"⟩, ⟨0x212a, 1, "k"⟩, ⟨0x212c, 2, "b"⟩, ⟨0x212f, 1, "e"⟩,
  ⟨0x2130, 2, "e"⟩, ⟨0x2133, 1, "m"⟩, ⟨0x2134, 1, "o"⟩, ⟨0x2139, 1, "i"⟩, ⟨0x213b, 1, "fax"⟩,
  ⟨0x2145, 1, "d"⟩, ⟨0x2146, 2, "d"⟩, ⟨0x2148, 2, "i"⟩, ⟨0x2160, 1, "i"⟩, ⟨0x2161, 1, "ii"⟩,
  ⟨0x2162, 1, "iii"⟩, ⟨0x2163, 1, "iv"⟩, ⟨0x2164, 1, "v"⟩, ⟨0x2165, 1, "vi"⟩, ⟨0x2166, 1, "vii"⟩,
  ⟨0x2167, 1, "viii"⟩, ⟨0x2168, 1, "ix"⟩, ⟨0x2169, 1, "x"⟩, ⟨0x216a, 1, "xi"⟩, ⟨0x216b, 1, "xii"⟩,
  ⟨0x216c, 1, "l"⟩, ⟨0x216d, 2, "c"⟩, ⟨0x216f, 1, "m"⟩, ⟨0x2170, 1, "i"⟩, ⟨0x2171, 1, "ii"⟩,
  ⟨0x2172, 1, "iii"⟩, ⟨0x2173, 1, "iv"⟩, ⟨0x2174, 1, "v"⟩, ⟨0x2175, 1, "vi"⟩, ⟨0x2176, 1, "vii"⟩,
  ⟨0x2177, 1, "viii"⟩, ⟨0x2178, 1, "ix"⟩, ⟨0x2179, 1, "x"⟩, ⟨0x217a, 1, "xi"⟩, ⟨0x217b, 1, "xii"⟩,
  ⟨0x217c, 1, "l"⟩, ⟨0x217d, 2, "c"⟩, ⟨0x217f, 1, "m"⟩, ⟨0x2460, 9, "1"⟩, ⟨0x2469, 1, "10"⟩,
  ⟨0x246a, 1, "11"⟩, ⟨0x246b, 1, "12"⟩, ⟨0x246c, 1, "13"⟩, ⟨0x246d, 1, "14"⟩, ⟨0x246e, 1, "15"⟩,
  ⟨0x246f, 1, "16"⟩, ⟨0x2470, 1, "17"⟩, ⟨0x2471, 1, "18"⟩, ⟨0x2472, 1, "19"⟩, ⟨0x2473, 1, "20"⟩,
  ⟨0x2474, 1, "(1)"⟩, ⟨0x2475, 1, "(2)"⟩, ⟨0x2476, 1, "(3)"⟩, ⟨0x2477, 1, "(4)"⟩,
  ⟨0x2478, 1, "(5)"⟩, ⟨0x2479, 1, "(6)"⟩, ⟨0x247a, 1, "(7)"⟩, ⟨0x247b, 1, "(8)"⟩,
  ⟨0x247c, 1, "(9)"⟩, ⟨0x247d, 1, "(10)"⟩, ⟨0x247e, 1, "(11)"⟩, ⟨0x247f, 1, "(12)"⟩,
  ⟨0x2480, 1, "(13)"⟩, ⟨0x2481, 1, "(14)"⟩, ⟨0x2482, 1, "(15)"⟩, ⟨0x2483, 1, "(16)"⟩,
  ⟨0x2484, 1, "(17)"⟩, ⟨0x2485, 1, "(18)"⟩, ⟨0x2486, 1, "(19)"⟩, ⟨0x2487, 1, "(20)"⟩,
  ⟨0x249c, 1, "(a)"⟩, ⟨0x249d, 1, "(b)"⟩, ⟨0x249e, 1, "(c)"⟩, ⟨0x249f, 1, "(d)"⟩,
  ⟨0x24a0, 1, "(e)"⟩, ⟨0x24a1, 1, "(f)"⟩, ⟨0x24a2, 1, "(g)"⟩, ⟨0x24a3, 1, "(h)"⟩,
  ⟨0x24a4, 1, "(i)"⟩, ⟨0x24a5, 1, "(j)"⟩, ⟨0x24a6, 1, "(k)"⟩, ⟨0x24a7, 1, "(l)"⟩,
  ⟨0x24a8, 1, "(m)"⟩, ⟨0x24a9, 1, "(n)"⟩, ⟨0x24aa, 1, "(o)"⟩, ⟨0x24ab, 1, "(p)"⟩,
  ⟨0x24ac, 1, "(q)"⟩, ⟨0x24ad, 1, "(r)"⟩, ⟨0x24ae, 1, "(s)"⟩, ⟨0x24af, 1, "(t)"⟩,
  ⟨0x24b0, 1, "(u)"⟩, ⟨0x24b1, 1, "(v)"⟩, ⟨0x24b2, 1, "(w)"⟩, ⟨0x24b3, 1, "(x)"⟩,
  ⟨0x24b4, 1, "(y)"⟩, ⟨0x24b5, 1, "(z)"⟩, ⟨0x24b6, 26, "a"⟩, ⟨0x24d0, 26, "a"⟩, ⟨0x24ea, 1, "0"⟩,
  ⟨0x2a75, 1, "=="⟩, ⟨0x2a76, 1, "==="⟩, ⟨0x2c7c, 1, "j"⟩, ⟨0x2c7d, 1, "v"⟩, ⟨0x3002, 1, "."⟩,
  ⟨0x3250, 1, "pte"⟩, ⟨0x3251, 1, "21"⟩, ⟨0x3252, 1, "22"⟩, ⟨0x3253, 1, "23"⟩, ⟨0x3254, 1, "24"⟩,
  ⟨0x3255, 1, "25"⟩, ⟨0x3256, 1, "26"⟩, ⟨0x3257, 1, "27"⟩, ⟨0x3258, 1, "28"⟩, ⟨0x3259, 1, "29"⟩,
  ⟨0x325a, 1, "30"⟩, ⟨0x325b, 1, "31"⟩, ⟨0x325c, 1, "32"⟩, ⟨0x325d, 1, "33"⟩, ⟨0x325e, 1, "34"⟩,
  ⟨0x325f, 1, "35"⟩, ⟨0x32b1, 1, "36"⟩, ⟨0x32b2, 1, "37"⟩, ⟨0x32b3, 1, "38"⟩, ⟨0x32b4, 1, "39"⟩,
  ⟨0x32b5, 1, "40"⟩, ⟨0x32b6, 1, "41"⟩, ⟨0x32b7, 1, "42"⟩, ⟨0x32b8, 1, "43"⟩, ⟨0x32b9, 1, "44"⟩,
  ⟨0x32ba, 1, "45"⟩, ⟨0x32bb, 1, "46"⟩, ⟨0x32bc, 1, "47"⟩, ⟨0x32bd, 1, "48"⟩, ⟨0x32be, 1, "49"⟩,
  ⟨0x32bf, 1, "50"⟩, ⟨0x32cc, 1, "hg"⟩, ⟨0x32cd, 1, "erg"⟩, ⟨0x32ce, 1, "ev"⟩, ⟨0x32cf, 1, "ltd"⟩,
  ⟨0x3371, 1, "hpa"⟩, ⟨0x3372, 1, "da"⟩, ⟨0x3373, 1, "au"⟩, ⟨0x3374, 1, "bar"⟩, ⟨0x3375, 1, "ov"⟩,
  ⟨0x3376, 1, "pc"⟩, ⟨0x3377, 1, "dm"⟩, ⟨0x3378, 1, "dm2"⟩, ⟨0x3379, 1, "dm3"⟩, ⟨0x337a, 1, "iu"⟩,
  ⟨0x3380, 1, "pa"⟩, ⟨0x3381, 1, "na"⟩, ⟨0x3383, 1, "ma"⟩, ⟨0x3384, 1, "ka"⟩, ⟨0x3385, 1, "kb"⟩,
  ⟨0x3386, 1, "mb"⟩, ⟨0x3387, 1, "gb"⟩, ⟨0x3388, 1, "cal"⟩, ⟨0x3389, 1, "kcal"⟩, ⟨0x338a, 1, "pf"⟩,
  ⟨0x338b, 1, "nf"⟩, ⟨0x338e, 1, "mg"⟩, ⟨0x338f, 1, "kg"⟩, ⟨0x3390, 1, "hz"⟩, ⟨0x3391, 1, "khz"⟩,
  ⟨0x3392, 1, "mhz"⟩, ⟨0x3393, 1, "ghz"⟩, ⟨0x3394, 1, "thz"⟩, ⟨0x3396, 1, "ml"⟩, ⟨0x3397, 1, "dl"⟩,
  ⟨0x3398, 1, "kl"⟩, ⟨0x3399, 1, "fm"⟩, ⟨0x339a, 1, "nm"⟩, ⟨0x339c, 1, "mm"⟩, ⟨0x339d, 1, "cm"⟩,
  ⟨0x339e, 1, "km"⟩, ⟨0x339f, 1, "mm2"⟩, ⟨0x33a0, 1, "cm2"⟩, ⟨0x33a1, 1, "m2"⟩, ⟨0x33a2, 1, "km2"⟩,
  ⟨0x33a3, 1, "mm3"⟩, ⟨0x33a4, 1, "cm3"⟩, ⟨0x33a5, 1, "m3"⟩, ⟨0x33a6, 1, "km3"⟩, ⟨0x33a9, 1, "pa"⟩,
  ⟨0x33aa, 1, "kpa"⟩, ⟨0x33ab, 1, "mpa"⟩, ⟨0x33ac, 1, "gpa"⟩, ⟨0x33ad, 1, "rad"⟩,
  ⟨0x33b0, 1, "ps"⟩, ⟨0x33b1, 1, "ns"⟩, ⟨0x33b3, 1, "ms"⟩, ⟨0x33b4, 1, "pv"⟩, ⟨0x33b5, 1, "nv"⟩,
  ⟨0x33b7, 1, "mv"⟩, ⟨0x33b8, 1, "kv"⟩, ⟨0x33b9, 1, "mv"⟩, ⟨0x33ba, 1, "pw"⟩, ⟨0x33bb, 1, "nw"⟩,
  ⟨0x33bd, 1, "mw"⟩, ⟨0x33be, 1, "kw"⟩, ⟨0x33bf, 1, "mw"⟩, ⟨0x33c3, 1, "bq"⟩, ⟨0x33c4, 1, "cc"⟩,
  ⟨0x33c5, 1, "cd"⟩, ⟨0x33c8, 1, "db"⟩, ⟨0x33c9, 1, "gy"⟩, ⟨0x33ca, 1, "ha"⟩, ⟨0x33cb, 1, "hp"⟩,
  ⟨0x33cc, 1, "in"⟩, ⟨0x33cd, 1, "kk"⟩, ⟨0x33ce, 1, "km"⟩, ⟨0x33cf, 1, "kt"⟩, ⟨0x33d0, 1, "lm"⟩,
  ⟨0x33d1, 1, "ln"⟩, ⟨0x33d2, 1, "log"⟩, ⟨0x33d3, 1, "lx"⟩, ⟨0x33d4, 1, "mb"⟩, ⟨0x33d5, 1, "mil"⟩,
  ⟨0x33d6, 1, "mol"⟩, ⟨0x33d7, 1, "ph"⟩, ⟨0x33d9, 1, "ppm"⟩, ⟨0x33da, 1, "pr"⟩, ⟨0x33db, 1, "sr"⟩,
  ⟨0x33dc, 1, "sv"⟩, ⟨0x33dd, 1, "wb"⟩, ⟨0x33ff, 1, "gal"⟩, ⟨0xa7f2, 1, "c"⟩, ⟨0xa7f3, 1, "f"⟩,
  ⟨0xa7f4, 1, "q"⟩, ⟨0xfb00, 1, "ff"⟩, ⟨0xfb01, 1, "fi"⟩, ⟨0xfb02, 1, "fl"⟩, ⟨0xfb03, 1, "ffi"⟩,
  ⟨0xfb04, 1, "ffl"⟩, ⟨0xfb05, 1, "st"⟩, ⟨0xfb06, 1, "st"⟩, ⟨0xfb29, 1, "+"⟩, ⟨0xfe10, 1, ","⟩,
  ⟨0xfe14, 1, ";"⟩, ⟨0xfe15, 1, "!"⟩, ⟨0xfe33, 1, "_"⟩, ⟨0xfe34, 1, "_"⟩, ⟨0xfe35, 2, "("⟩,
  ⟨0xfe37, 1, "\x7b"⟩, ⟨0xfe38, 1, "\x7d"⟩, ⟨0xfe4d, 1, "_"⟩, ⟨0xfe4e, 1, "_"⟩, ⟨0xfe4f, 1, "_"⟩,
  ⟨0xfe50, 1, ","⟩, ⟨0xfe54, 1, ";"⟩, ⟨0xfe57, 1, "!"⟩, ⟨0xfe59, 2, "("⟩, ⟨0xfe5b, 1, "\x7b"⟩,
  ⟨0xfe5c, 1, "\x7d"⟩, ⟨0xfe60, 1, "&"⟩, ⟨0xfe61, 2, "*"⟩, ⟨0xfe63, 1, "-"⟩, ⟨0xfe64, 1, "<"⟩,
  ⟨0xfe65, 1, ">"⟩, ⟨0xfe66, 1, "="⟩, ⟨0xfe69, 1, "$"⟩, ⟨0xff01, 2, "!"⟩, ⟨0xff04, 1, "$"⟩,
  ⟨0xff06, 9, "&"⟩, ⟨0xff10, 10, "0"⟩, ⟨0xff1b, 4, ";"⟩, ⟨0xff21, 26, "a"⟩, ⟨0xff3f, 29, "_"⟩,
  ⟨0xff5d, 2, "\x7d"⟩, ⟨0xff61, 1, "."⟩, ⟨0x107a5, 1, "q"⟩, ⟨0x1d400, 26, "a"⟩, ⟨0x1d41a, 26, "a"⟩,
  ⟨0x1d434, 26, "a"⟩, ⟨0x1d44e, 7, "a"⟩, ⟨0x1d456, 18, "i"⟩, ⟨0x1d468, 26, "a"⟩,
  ⟨0x1d482, 26, "a"⟩, ⟨0x1d49c, 1, "a"⟩, ⟨0x1d49e, 2, "c"⟩, ⟨0x1d4a2, 1, "g"⟩, ⟨0x1d4a5, 2, "j"⟩,
  ⟨0x1d4a9, 4, "n"⟩, ⟨0x1d4ae, 8, "s"⟩, ⟨0x1d4b6, 4, "a"⟩, ⟨0x1d4bb, 1, "f"⟩, ⟨0x1d4bd, 7, "h"⟩,
  ⟨0x1d4c5, 11, "p"⟩, ⟨0x1d4d0, 26, "a"⟩, ⟨0x1d4ea, 26, "a"⟩, ⟨0x1d504, 2, "a"⟩, ⟨0x1d507, 4, "d"⟩,
  ⟨0x1d50d, 8, "j"⟩, ⟨0x1d516, 7, "s"⟩, ⟨0x1d51e, 26, "a"⟩, ⟨0x1d538, 2, "a"⟩, ⟨0x1d53b, 4, "d"⟩,
  ⟨0x1d540, 5, "i"⟩, ⟨0x1d546, 1, "o"⟩, ⟨0x1d54a, 7, "s"⟩, ⟨0x1d552, 26, "a"⟩, ⟨0x1d56c, 26, "a"⟩,
  ⟨0x1d586, 26, "a"⟩, ⟨0x1d5a0, 26, "a"⟩, ⟨0x1d5ba, 26, "a"⟩, ⟨0x1d5d4, 26, "a"⟩,
  ⟨0x1d5ee, 26, "a"⟩, ⟨0x1d608, 26, "a"⟩, ⟨0x1d622, 26, "a"⟩, ⟨0x1d63c, 26, "a"⟩,
  ⟨0x1d656, 26, "a"⟩, ⟨0x1d670, 26, "a"⟩, ⟨0x1d68a, 26, "a"⟩, ⟨0x1d7ce, 10, "0"⟩,
  ⟨0x1d7d8, 10, "0"⟩, ⟨0x1d7e2, 10, "0"⟩, ⟨0x1d7ec, 10, "0"⟩, ⟨0x1d7f6, 10, "0"⟩,
  ⟨0x1f101, 1, "0,"⟩, ⟨0x1f102, 1, "1,"⟩, ⟨0x1f103, 1, "2,"⟩, ⟨0x1f104, 1, "3,"⟩,
  ⟨0x1f105, 1, "4,"⟩, ⟨0x1f106, 1, "5,"⟩, ⟨0x1f107, 1, "6,"⟩, ⟨0x1f108, 1, "7,"⟩,
  ⟨0x1f109, 1, "8,"⟩, ⟨0x1f10a, 1, "9,"⟩, ⟨0x1f110, 1, "(a)"⟩, ⟨0x1f111, 1, "(b)"⟩,
  ⟨0x1f112, 1, "(c)"⟩, ⟨0x1f113, 1, "(d)"⟩, ⟨0x1f114, 1, "(e)"⟩, ⟨0x1f115, 1, "(f)"⟩,
  ⟨0x1f116, 1, "(g)"⟩, ⟨0x1f117, 1, "(h)"⟩, ⟨0x1f118, 1, "(i)"⟩, ⟨0x1f119, 1, "(j)"⟩,
  ⟨0x1f11a, 1, "(k)"⟩, ⟨0x1f11b, 1, "(l)"⟩, ⟨0x1f11c, 1, "(m)"⟩, ⟨0x1f11d, 1, "(n)"⟩,
  ⟨0x1f11e, 1, "(o)"⟩, ⟨0x1f11f, 1, "(p)"⟩, ⟨0x1f120, 1, "(q)"⟩, ⟨0x1f121, 1, "(r)"⟩,
  ⟨0x1f122, 1, "(s)"⟩, ⟨0x1f123, 1, "(t)"⟩, ⟨0x1f124, 1, "(u)"⟩, ⟨0x1f125, 1, "(v)"⟩,
  ⟨0x1f126, 1, "(w)"⟩, ⟨0x1f127, 1, "(x)"⟩, ⟨0x1f128, 1, "(y)"⟩, ⟨0x1f129, 1, "(z)"⟩,
  ⟨0x1f12b, 1, "c"⟩, ⟨0x1f12c, 1, "r"⟩, ⟨0x1f12d, 1, "cd"⟩, ⟨0x1f12e, 1, "wz"⟩, ⟨0x1f130, 26, "a"⟩,
  ⟨0x1f14a, 1, "hv"⟩, ⟨0x1f14b, 1, "mv"⟩, ⟨0x1f14c, 1, "sd"⟩, ⟨0x1f14d, 1, "ss"⟩,
  ⟨0x1f14e, 1, "ppv"⟩, ⟨0x1f14f, 1, "wc"⟩, ⟨0x1f16a, 1, "mc"⟩, ⟨0x1f16b, 1, "md"⟩,
  ⟨0x1f16c, 1, "mr"⟩, ⟨0x1f190, 1, "dj"⟩, ⟨0x1fbf0, 10, "0"⟩]

/-- A character, and several of different kinds for which it stands. -/
structure Expansion where
  char : Nat
  meaning : List Nat

def expansions : List Expansion := [
  ⟨0xbc, [0x31, 0x2044, 0x34]⟩, ⟨0xbd, [0x31, 0x2044, 0x32]⟩, ⟨0xbe, [0x33, 0x2044, 0x34]⟩,
  ⟨0x130, [0x69, 0x307]⟩, ⟨0x13f, [0x6c, 0xb7]⟩, ⟨0x140, [0x6c, 0xb7]⟩, ⟨0x149, [0x2bc, 0x6e]⟩,
  ⟨0x1c4, [0x64, 0x17e]⟩, ⟨0x1c5, [0x64, 0x17e]⟩, ⟨0x1c6, [0x64, 0x17e]⟩, ⟨0x340, [0x300]⟩,
  ⟨0x341, [0x301]⟩, ⟨0x343, [0x313]⟩, ⟨0x344, [0x308, 0x301]⟩, ⟨0x345, [0x3b9]⟩,
  ⟨0x675, [0x627, 0x674]⟩, ⟨0x676, [0x648, 0x674]⟩, ⟨0x677, [0x6c7, 0x674]⟩,
  ⟨0x958, [0x915, 0x93c]⟩, ⟨0x959, [0x916, 0x93c]⟩, ⟨0x95a, [0x917, 0x93c]⟩,
  ⟨0x95b, [0x91c, 0x93c]⟩, ⟨0x95c, [0x921, 0x93c]⟩, ⟨0x95d, [0x922, 0x93c]⟩,
  ⟨0x95e, [0x92b, 0x93c]⟩, ⟨0x95f, [0x92f, 0x93c]⟩, ⟨0x9dc, [0x9a1, 0x9bc]⟩,
  ⟨0x9dd, [0x9a2, 0x9bc]⟩, ⟨0x9df, [0x9af, 0x9bc]⟩, ⟨0xa33, [0xa32, 0xa3c]⟩,
  ⟨0xa36, [0xa38, 0xa3c]⟩, ⟨0xa59, [0xa16, 0xa3c]⟩, ⟨0xa5a, [0xa17, 0xa3c]⟩,
  ⟨0xa5b, [0xa1c, 0xa3c]⟩, ⟨0xa5e, [0xa2b, 0xa3c]⟩, ⟨0xb5c, [0xb21, 0xb3c]⟩,
  ⟨0xb5d, [0xb22, 0xb3c]⟩, ⟨0xe33, [0xe4d, 0xe32]⟩, ⟨0xeb3, [0xecd, 0xeb2]⟩,
  ⟨0xf43, [0xf42, 0xfb7]⟩, ⟨0xf4d, [0xf4c, 0xfb7]⟩, ⟨0xf52, [0xf51, 0xfb7]⟩,
  ⟨0xf57, [0xf56, 0xfb7]⟩, ⟨0xf5c, [0xf5b, 0xfb7]⟩, ⟨0xf69, [0xf40, 0xfb5]⟩,
  ⟨0xf73, [0xf71, 0xf72]⟩, ⟨0xf75, [0xf71, 0xf74]⟩, ⟨0xf76, [0xfb2, 0xf80]⟩,
  ⟨0xf77, [0xfb2, 0xf71, 0xf80]⟩, ⟨0xf78, [0xfb3, 0xf80]⟩, ⟨0xf79, [0xfb3, 0xf71, 0xf80]⟩,
  ⟨0xf81, [0xf71, 0xf80]⟩, ⟨0xf93, [0xf92, 0xfb7]⟩, ⟨0xf9d, [0xf9c, 0xfb7]⟩,
  ⟨0xfa2, [0xfa1, 0xfb7]⟩, ⟨0xfa7, [0xfa6, 0xfb7]⟩, ⟨0xfac, [0xfab, 0xfb7]⟩,
  ⟨0xfb9, [0xf90, 0xfb5]⟩, ⟨0x1e9a, [0x61, 0x2be]⟩, ⟨0x2103, [0xb0, 0x63]⟩, ⟨0x2109, [0xb0, 0x66]⟩,
  ⟨0x2150, [0x31, 0x2044, 0x37]⟩, ⟨0x2151, [0x31, 0x2044, 0x39]⟩,
  ⟨0x2152, [0x31, 0x2044, 0x31, 0x30]⟩, ⟨0x2153, [0x31, 0x2044, 0x33]⟩,
  ⟨0x2154, [0x32, 0x2044, 0x33]⟩, ⟨0x2155, [0x31, 0x2044, 0x35]⟩, ⟨0x2156, [0x32, 0x2044, 0x35]⟩,
  ⟨0x2157, [0x33, 0x2044, 0x35]⟩, ⟨0x2158, [0x34, 0x2044, 0x35]⟩, ⟨0x2159, [0x31, 0x2044, 0x36]⟩,
  ⟨0x215a, [0x35, 0x2044, 0x36]⟩, ⟨0x215b, [0x31, 0x2044, 0x38]⟩, ⟨0x215c, [0x33, 0x2044, 0x38]⟩,
  ⟨0x215d, [0x35, 0x2044, 0x38]⟩, ⟨0x215e, [0x37, 0x2044, 0x38]⟩, ⟨0x215f, [0x31, 0x2044]⟩,
  ⟨0x2189, [0x30, 0x2044, 0x33]⟩, ⟨0x2adc, [0x2add, 0x338]⟩, ⟨0x3200, [0x28, 0x1100, 0x29]⟩,
  ⟨0x3201, [0x28, 0x1102, 0x29]⟩, ⟨0x3202, [0x28, 0x1103, 0x29]⟩, ⟨0x3203, [0x28, 0x1105, 0x29]⟩,
  ⟨0x3204, [0x28, 0x1106, 0x29]⟩, ⟨0x3205, [0x28, 0x1107, 0x29]⟩, ⟨0x3206, [0x28, 0x1109, 0x29]⟩,
  ⟨0x3207, [0x28, 0x110b, 0x29]⟩, ⟨0x3208, [0x28, 0x110c, 0x29]⟩, ⟨0x3209, [0x28, 0x110e, 0x29]⟩,
  ⟨0x320a, [0x28, 0x110f, 0x29]⟩, ⟨0x320b, [0x28, 0x1110, 0x29]⟩, ⟨0x320c, [0x28, 0x1111, 0x29]⟩,
  ⟨0x320d, [0x28, 0x1112, 0x29]⟩, ⟨0x320e, [0x28, 0xac00, 0x29]⟩, ⟨0x320f, [0x28, 0xb098, 0x29]⟩,
  ⟨0x3210, [0x28, 0xb2e4, 0x29]⟩, ⟨0x3211, [0x28, 0xb77c, 0x29]⟩, ⟨0x3212, [0x28, 0xb9c8, 0x29]⟩,
  ⟨0x3213, [0x28, 0xbc14, 0x29]⟩, ⟨0x3214, [0x28, 0xc0ac, 0x29]⟩, ⟨0x3215, [0x28, 0xc544, 0x29]⟩,
  ⟨0x3216, [0x28, 0xc790, 0x29]⟩, ⟨0x3217, [0x28, 0xcc28, 0x29]⟩, ⟨0x3218, [0x28, 0xce74, 0x29]⟩,
  ⟨0x3219, [0x28, 0xd0c0, 0x29]⟩, ⟨0x321a, [0x28, 0xd30c, 0x29]⟩, ⟨0x321b, [0x28, 0xd558, 0x29]⟩,
  ⟨0x321c, [0x28, 0xc8fc, 0x29]⟩, ⟨0x321d, [0x28, 0xc624, 0xc804, 0x29]⟩,
  ⟨0x321e, [0x28, 0xc624, 0xd6c4, 0x29]⟩, ⟨0x3220, [0x28, 0x4e00, 0x29]⟩,
  ⟨0x3221, [0x28, 0x4e8c, 0x29]⟩, ⟨0x3222, [0x28, 0x4e09, 0x29]⟩, ⟨0x3223, [0x28, 0x56db, 0x29]⟩,
  ⟨0x3224, [0x28, 0x4e94, 0x29]⟩, ⟨0x3225, [0x28, 0x516d, 0x29]⟩, ⟨0x3226, [0x28, 0x4e03, 0x29]⟩,
  ⟨0x3227, [0x28, 0x516b, 0x29]⟩, ⟨0x3228, [0x28, 0x4e5d, 0x29]⟩, ⟨0x3229, [0x28, 0x5341, 0x29]⟩,
  ⟨0x322a, [0x28, 0x6708, 0x29]⟩, ⟨0x322b, [0x28, 0x706b, 0x29]⟩, ⟨0x322c, [0x28, 0x6c34, 0x29]⟩,
  ⟨0x322d, [0x28, 0x6728, 0x29]⟩, ⟨0x322e, [0x28, 0x91d1, 0x29]⟩, ⟨0x322f, [0x28, 0x571f, 0x29]⟩,
  ⟨0x3230, [0x28, 0x65e5, 0x29]⟩, ⟨0x3231, [0x28, 0x682a, 0x29]⟩, ⟨0x3232, [0x28, 0x6709, 0x29]⟩,
  ⟨0x3233, [0x28, 0x793e, 0x29]⟩, ⟨0x3234, [0x28, 0x540d, 0x29]⟩, ⟨0x3235, [0x28, 0x7279, 0x29]⟩,
  ⟨0x3236, [0x28, 0x8ca1, 0x29]⟩, ⟨0x3237, [0x28, 0x795d, 0x29]⟩, ⟨0x3238, [0x28, 0x52b4, 0x29]⟩,
  ⟨0x3239, [0x28, 0x4ee3, 0x29]⟩, ⟨0x323a, [0x28, 0x547c, 0x29]⟩, ⟨0x323b, [0x28, 0x5b66, 0x29]⟩,
  ⟨0x323c, [0x28, 0x76e3, 0x29]⟩, ⟨0x323d, [0x28, 0x4f01, 0x29]⟩, ⟨0x323e, [0x28, 0x8cc7, 0x29]⟩,
  ⟨0x323f, [0x28, 0x5354, 0x29]⟩, ⟨0x3240, [0x28, 0x796d, 0x29]⟩, ⟨0x3241, [0x28, 0x4f11, 0x29]⟩,
  ⟨0x3242, [0x28, 0x81ea, 0x29]⟩, ⟨0x3243, [0x28, 0x81f3, 0x29]⟩, ⟨0x32c0, [0x31, 0x6708]⟩,
  ⟨0x32c1, [0x32, 0x6708]⟩, ⟨0x32c2, [0x33, 0x6708]⟩, ⟨0x32c3, [0x34, 0x6708]⟩,
  ⟨0x32c4, [0x35, 0x6708]⟩, ⟨0x32c5, [0x36, 0x6708]⟩, ⟨0x32c6, [0x37, 0x6708]⟩,
  ⟨0x32c7, [0x38, 0x6708]⟩, ⟨0x32c8, [0x39, 0x6708]⟩, ⟨0x32c9, [0x31, 0x30, 0x6708]⟩,
  ⟨0x32ca, [0x31, 0x31, 0x6708]⟩, ⟨0x32cb, [0x31, 0x32, 0x6708]⟩, ⟨0x3358, [0x30, 0x70b9]⟩,
  ⟨0x3359, [0x31, 0x70b9]⟩, ⟨0x335a, [0x32, 0x70b9]⟩, ⟨0x335b, [0x33, 0x70b9]⟩,
  ⟨0x335c, [0x34, 0x70b9]⟩, ⟨0x335d, [0x35, 0x70b9]⟩, ⟨0x335e, [0x36, 0x70b9]⟩,
  ⟨0x335f, [0x37, 0x70b9]⟩, ⟨0x3360, [0x38, 0x70b9]⟩, ⟨0x3361, [0x39, 0x70b9]⟩,
  ⟨0x3362, [0x31, 0x30, 0x70b9]⟩, ⟨0x3363, [0x31, 0x31, 0x70b9]⟩, ⟨0x3364, [0x31, 0x32, 0x70b9]⟩,
  ⟨0x3365, [0x31, 0x33, 0x70b9]⟩, ⟨0x3366, [0x31, 0x34, 0x70b9]⟩, ⟨0x3367, [0x31, 0x35, 0x70b9]⟩,
  ⟨0x3368, [0x31, 0x36, 0x70b9]⟩, ⟨0x3369, [0x31, 0x37, 0x70b9]⟩, ⟨0x336a, [0x31, 0x38, 0x70b9]⟩,
  ⟨0x336b, [0x31, 0x39, 0x70b9]⟩, ⟨0x336c, [0x32, 0x30, 0x70b9]⟩, ⟨0x336d, [0x32, 0x31, 0x70b9]⟩,
  ⟨0x336e, [0x32, 0x32, 0x70b9]⟩, ⟨0x336f, [0x32, 0x33, 0x70b9]⟩, ⟨0x3370, [0x32, 0x34, 0x70b9]⟩,
  ⟨0x3382, [0x3bc, 0x61]⟩, ⟨0x338c, [0x3bc, 0x66]⟩, ⟨0x338d, [0x3bc, 0x67]⟩,
  ⟨0x3395, [0x3bc, 0x6c]⟩, ⟨0x339b, [0x3bc, 0x6d]⟩, ⟨0x33a7, [0x6d, 0x2215, 0x73]⟩,
  ⟨0x33a8, [0x6d, 0x2215, 0x73, 0x32]⟩, ⟨0x33ae, [0x72, 0x61, 0x64, 0x2215, 0x73]⟩,
  ⟨0x33af, [0x72, 0x61, 0x64, 0x2215, 0x73, 0x32]⟩, ⟨0x33b2, [0x3bc, 0x73]⟩,
  ⟨0x33b6, [0x3bc, 0x76]⟩, ⟨0x33bc, [0x3bc, 0x77]⟩, ⟨0x33c0, [0x6b, 0x3c9]⟩,
  ⟨0x33c1, [0x6d, 0x3c9]⟩, ⟨0x33c6, [0x63, 0x2215, 0x6b, 0x67]⟩, ⟨0x33de, [0x76, 0x2215, 0x6d]⟩,
  ⟨0x33df, [0x61, 0x2215, 0x6d]⟩, ⟨0x33e0, [0x31, 0x65e5]⟩, ⟨0x33e1, [0x32, 0x65e5]⟩,
  ⟨0x33e2, [0x33, 0x65e5]⟩, ⟨0x33e3, [0x34, 0x65e5]⟩, ⟨0x33e4, [0x35, 0x65e5]⟩,
  ⟨0x33e5, [0x36, 0x65e5]⟩, ⟨0x33e6, [0x37, 0x65e5]⟩, ⟨0x33e7, [0x38, 0x65e5]⟩,
  ⟨0x33e8, [0x39, 0x65e5]⟩, ⟨0x33e9, [0x31, 0x30, 0x65e5]⟩, ⟨0x33ea, [0x31, 0x31, 0x65e5]⟩,
  ⟨0x33eb, [0x31, 0x32, 0x65e5]⟩, ⟨0x33ec, [0x31, 0x33, 0x65e5]⟩, ⟨0x33ed, [0x31, 0x34, 0x65e5]⟩,
  ⟨0x33ee, [0x31, 0x35, 0x65e5]⟩, ⟨0x33ef, [0x31, 0x36, 0x65e5]⟩, ⟨0x33f0, [0x31, 0x37, 0x65e5]⟩,
  ⟨0x33f1, [0x31, 0x38, 0x65e5]⟩, ⟨0x33f2, [0x31, 0x39, 0x65e5]⟩, ⟨0x33f3, [0x32, 0x30, 0x65e5]⟩,
  ⟨0x33f4, [0x32, 0x31, 0x65e5]⟩, ⟨0x33f5, [0x32, 0x32, 0x65e5]⟩, ⟨0x33f6, [0x32, 0x33, 0x65e5]⟩,
  ⟨0x33f7, [0x32, 0x34, 0x65e5]⟩, ⟨0x33f8, [0x32, 0x35, 0x65e5]⟩, ⟨0x33f9, [0x32, 0x36, 0x65e5]⟩,
  ⟨0x33fa, [0x32, 0x37, 0x65e5]⟩, ⟨0x33fb, [0x32, 0x38, 0x65e5]⟩, ⟨0x33fc, [0x32, 0x39, 0x65e5]⟩,
  ⟨0x33fd, [0x33, 0x30, 0x65e5]⟩, ⟨0x33fe, [0x33, 0x31, 0x65e5]⟩, ⟨0xfb1d, [0x5d9, 0x5b4]⟩,
  ⟨0xfb1f, [0x5f2, 0x5b7]⟩, ⟨0xfb2a, [0x5e9, 0x5c1]⟩, ⟨0xfb2b, [0x5e9, 0x5c2]⟩,
  ⟨0xfb2c, [0x5e9, 0x5bc, 0x5c1]⟩, ⟨0xfb2d, [0x5e9, 0x5bc, 0x5c2]⟩, ⟨0xfb2e, [0x5d0, 0x5b7]⟩,
  ⟨0xfb2f, [0x5d0, 0x5b8]⟩, ⟨0xfb30, [0x5d0, 0x5bc]⟩, ⟨0xfb31, [0x5d1, 0x5bc]⟩,
  ⟨0xfb32, [0x5d2, 0x5bc]⟩, ⟨0xfb33, [0x5d3, 0x5bc]⟩, ⟨0xfb34, [0x5d4, 0x5bc]⟩,
  ⟨0xfb35, [0x5d5, 0x5bc]⟩, ⟨0xfb36, [0x5d6, 0x5bc]⟩, ⟨0xfb38, [0x5d8, 0x5bc]⟩,
  ⟨0xfb39, [0x5d9, 0x5bc]⟩, ⟨0xfb3a, [0x5da, 0x5bc]⟩, ⟨0xfb3b, [0x5db, 0x5bc]⟩,
  ⟨0xfb3c, [0x5dc, 0x5bc]⟩, ⟨0xfb3e, [0x5de, 0x5bc]⟩, ⟨0xfb40, [0x5e0, 0x5bc]⟩,
  ⟨0xfb41, [0x5e1, 0x5bc]⟩, ⟨0xfb43, [0x5e3, 0x5bc]⟩, ⟨0xfb44, [0x5e4, 0x5bc]⟩,
  ⟨0xfb46, [0x5e6, 0x5bc]⟩, ⟨0xfb47, [0x5e7, 0x5bc]⟩, ⟨0xfb48, [0x5e8, 0x5bc]⟩,
  ⟨0xfb49, [0x5e9, 0x5bc]⟩, ⟨0xfb4a, [0x5ea, 0x5bc]⟩, ⟨0xfb4b, [0x5d5, 0x5b9]⟩,
  ⟨0xfb4c, [0x5d1, 0x5bf]⟩, ⟨0xfb4d, [0x5db, 0x5bf]⟩, ⟨0xfb4e, [0x5e4, 0x5bf]⟩,
  ⟨0xfb4f, [0x5d0, 0x5dc]⟩, ⟨0xfbdd, [0x6c7, 0x674]⟩, ⟨0xfc5b, [0x630, 0x670]⟩,
  ⟨0xfc5c, [0x631, 0x670]⟩, ⟨0xfc5d, [0x649, 0x670]⟩, ⟨0xfc90, [0x649, 0x670]⟩,
  ⟨0xfcd9, [0x647, 0x670]⟩, ⟨0xfcf2, [0x640, 0x64e, 0x651]⟩, ⟨0xfcf3, [0x640, 0x64f, 0x651]⟩,
  ⟨0xfcf4, [0x640, 0x650, 0x651]⟩, ⟨0xfd3c, [0x627, 0x64b]⟩, ⟨0xfd3d, [0x627, 0x64b]⟩,
  ⟨0xfe71, [0x640, 0x64b]⟩, ⟨0xfe77, [0x640, 0x64e]⟩, ⟨0xfe79, [0x640, 0x64f]⟩,
  ⟨0xfe7b, [0x640, 0x650]⟩, ⟨0xfe7d, [0x640, 0x651]⟩, ⟨0xfe7f, [0x640, 0x652]⟩, ⟨0xff9e, [0x3099]⟩,
  ⟨0xff9f, [0x309a]⟩, ⟨0x1d15e, [0x1d157, 0x1d165]⟩, ⟨0x1d15f, [0x1d158, 0x1d165]⟩,
  ⟨0x1d160, [0x1d158, 0x1d165, 0x1d16e]⟩, ⟨0x1d161, [0x1d158, 0x1d165, 0x1d16f]⟩,
  ⟨0x1d162, [0x1d158, 0x1d165, 0x1d170]⟩, ⟨0x1d163, [0x1d158, 0x1d165, 0x1d171]⟩,
  ⟨0x1d164, [0x1d158, 0x1d165, 0x1d172]⟩, ⟨0x1d1bb, [0x1d1b9, 0x1d165]⟩,
  ⟨0x1d1bc, [0x1d1ba, 0x1d165]⟩, ⟨0x1d1bd, [0x1d1b9, 0x1d165, 0x1d16e]⟩,
  ⟨0x1d1be, [0x1d1ba, 0x1d165, 0x1d16e]⟩, ⟨0x1d1bf, [0x1d1b9, 0x1d165, 0x1d16f]⟩,
  ⟨0x1d1c0, [0x1d1ba, 0x1d165, 0x1d16f]⟩, ⟨0x1f12a, [0x3014, 0x73, 0x3015]⟩,
  ⟨0x1f240, [0x3014, 0x672c, 0x3015]⟩, ⟨0x1f241, [0x3014, 0x4e09, 0x3015]⟩,
  ⟨0x1f242, [0x3014, 0x4e8c, 0x3015]⟩, ⟨0x1f243, [0x3014, 0x5b89, 0x3015]⟩,
  ⟨0x1f244, [0x3014, 0x70b9, 0x3015]⟩, ⟨0x1f245, [0x3014, 0x6253, 0x3015]⟩,
  ⟨0x1f246, [0x3014, 0x76d7, 0x3015]⟩, ⟨0x1f247, [0x3014, 0x52dd, 0x3015]⟩,
  ⟨0x1f248, [0x3014, 0x6557, 0x3015]⟩]

end Suppression.FileUrl
