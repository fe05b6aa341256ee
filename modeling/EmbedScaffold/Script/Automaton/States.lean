/-!
# States of the automaton

Which rows make up each state.
-/

namespace EmbedScaffold

namespace Script.Automaton

/-- The states: the mode of reading, with 16 added where reserved words are no names, and the rows
of reductions, of tokens and of rules. -/
def states : List String := [
  "00000000 0H010101 02000202 02000302 02000403 02000504 02000604 0J020705 0J020806 0J020906 0H03",
  "0A07 0J040B08 0J040C09 0H050D0A 0H060D07 0H070D0B 0H080D07 0J020E0C 0J090F08 0J0A0G0C 0J0B0H09",
  " 0J0A0I09 0J0C0J09 0J020K0C 0J0D0L0D 0J0D0M09 0H0E0D0E 0H0E0D07 0H0F0D07 0H000N07 0H000O0F 0J0",
  "G0B08 0J0H0P08 0H000Q07 0H000R0G 0H000S07 0H000T0H 0H000U07 0H000V0I 0H000W0J 0H000X07 0J0I0F0",
  "8 0H000Y0K 0H000D0L 0H000D0M 0H000D0N 0H000D0O 0H000D0P 0H000D0Q 0H000D0R 0H000D0S 0H000D0T 0H",
  "000D0U 0H000D0V 0H000D0W 0H000D0X 0H000D0Y 0H000D0Z 0H000Y0a 0H000Y0b 0H000Y0c 0H000Y0d 0H000Y",
  "0e 0J0J0Z09 0H000Y0f 0H000Y0g 0H000Y0h 0H000Y0i 0H000Y0j 0H000Y0k 0H000Y0l 0H000Y0m 0H000Y0n 0",
  "H000Y0o 0J0K0J09 0J0L0a0p 0J0L0b09 0J0M0c09 0J0M0d0q 0J0M0e09 0J0M0f09 0J0M0g09 0J0M0h09 0J0M0",
  "i09 0J0M0j09 0K0N0k0r 0K0O0l0s 0K0P0m0t 0K0Q0n0u 0K0R0o0v 0K0S0p0w 0K0T0q00 0K0U0000 0K0V0000 ",
  "0K0W0000 0K0X0r00 0K0Y0s00 0K0Z0000 0K0a0t00 0K0b0u00 0K0c0v00 0K0b0w00 0K0d0x00 0K0e0y00 0K0f",
  "0z00 0K0g0+00 0H000-0x 0H000-0y 0H00100z 0H00110z 0H00120z 0H00130z 0H00140z 0H00150+ 0H00150-",
  " 0H001610 0H001611 0H001712 0H001813 0H0h1914 0H001A15 0H001B16 0H001817 0H001C18 0H0i1D19 0H0",
  "j1E1A 0H001C1B 0H001F1C 0H001G1D 0H001H1E 0H0k1I1F 0H001J1E 0H001K1G 0H001L1H 0H001M1I 0H001N1",
  "J 0H001D1K 0H001D1E 0H001O1L 0H001P1M 0H001Q1N 0H001Q1O 0H001Q1P 0H001Q1Q 0H001R1R 0H001S1S 0H",
  "001T1T 0H001U1U 0H001V1V 0H001W1W 0H001X1X 0H001Y1Y 0H001Z1Z 0H001a1a 0L001b1b 0H001c1c 0H001d",
  "1d 0H001d1e 0H001c1f 0H001d1g 0H001c1h 0H001c1i 0H001c1j 0H001c1k 0H001d1l 0H001d1m 0H001d1n 0",
  "H001d1o 0H001d1p 0H001d1q 0H001d1r 0H001d1s 0H001e1t 0H001e1u 0H001e1v 0H001e1w 0H001e1x 0H001",
  "e1y 0L001f1z 0H001g1+ 0H001g1- 0H001g20 0H001g21 0H001g22 0H001g23 0L001h24 0H001i25 0H001i26 ",
  "0H001i27 0H001i28 0H001i29 0H001i2A 0L001j2B 0H001k2C 0H001d2D 0H001k2E 0H001d2F 0H001k2G 0H00",
  "1k2H 0H001k2I 0H001k2J 0H001d2K 0L001l2L 0H001m2M 0H001m2N 0H001m2O 0H001m2P 0H001m2Q 0H001m2R",
  " 0L001n2S 0H001o2T 0H001a2U 0H001a2V 0H001a2W 030l1p2X 0H001q2Y 0H001r2Z 0H001a2a 0H001s2b 0H0",
  "01a2c 0H001a2d 0H001t2e 0H001a2f 0H001a2g 0H001a2h 0H001a2i 0H001a2j 0H001a2k 0H001a2l 0H001a2",
  "m 0H001a2n 0H001a2o 0H001a2p 0H001a2q 0H001a2r 0H001a2s 0H001d2t 0H001a2u 0H001a2v 0H001a2w 0H",
  "001d2x 0H001a2y 0H001a2z 0H001d2+ 0H001d2- 0H001d30 0H001a31 0H001d32 0H001d33 0H001d34 0H001d",
  "35 0H001d36 0H001d37 0H001d38 0H001d39 0H001d3A 0H001d3B 0H001d3C 0H001d3D 0H001d3E 0H001d3F 0",
  "H001d3G 0H001d3H 0H001d3I 0H001d3J 0H001d3K 0H001d3L 0H001u3M 0H001d3N 0H001d3O 0H001d3P 030l1",
  "v3Q 0H001w3R 0H001t3S 0H001t3T 0H001t3U 0H001t3V 0H001t3W 0H001t3X 0H001t3Y 0H001t3Z 0H001t3a ",
  "0H001t3b 0H001t3c 0H001t3d 0H001t3e 0H001t3f 0H001t3g 0H001t3h 0H001t3i 0H001t3j 0H001t3k 0H00",
  "1t3l 0H001t3m 030l1x3Q 0H001s3n 0H001s3o 0H001s3p 0H001s3q 0H001s3r 0H001s3s 0H001s3t 0H001s3u",
  " 0H001s3v 0H001s3w 0H001s3x 0H001s3y 0H001s3z 0H001s3+ 0H001s3- 0H001s40 0H001s41 0H001s42 0H0",
  "01s43 0H001s44 0H001s45 0H001y46 0H001w47 0H001w48 0H001w49 0H001w4A 0H001w4B 0H001t4C 0H001w4",
  "D 0H001w4E 0H001w4F 0H001w4G 0H001w4H 0H001w4I 0H001w4J 0H001w4K 0H001w4L 0H001w4M 0H001w4N 0H",
  "001w4O 0H001d4P 0H001w4Q 0H001w4R 0H001w4S 0H001z4T 0H001t4U 0H001+4V 0H001t4W 0H001w4X 0H001u",
  "4Y 0H001u4Z 0H001u4a 0H001u4b 0H001u4c 0H001u4d 0H001u4e 0H001u4f 0H001u4g 0H001u4h 0H001u4i 0",
  "H001u4j 0H001u4k 0H001u4l 0H001u4m 0H001u4n 0H001u4o 0H001u4p 0H001u4q 0H001u4r 0H001u4s 0H001",
  "-4t 0H001t4u 0H00204v 0H001t4w 030m214x 030m224y 030m234y 030n244z 030n254z 030o264+ 030p274+ ",
  "030o284- 030p294- 030o2A4- 030p2B4- 0J0q2C50 0J0q2D50 0J0r2E51 0J0p2F52 0J0s2G50 0J0t2H51 0H0u",
  "2I53 0H0v2J00 0H0w0q00 0J0x2K54 0J0t2L51 0J0y2M54 0J0p2N55 0J0p2O55 0J0r2P51 0J0z2Q56 0J0z2R56",
  " 0H0v0000 0J0+2C50 0J0-2S50 0H100000 0J112T51 0H122U57 0J132G50 0J112V51 0J142W58 0H150000 0H1",
  "62X59 0H170t00 0H182Y00 0H190000 0H1A0u00 0H1B0v00 0H1A0w00 0H1C0x00 0H1D0y00 0H1E0z00 0H1F0+0",
  "0 0H1G0000 0H1H0000 0H1I0000 0H1J0000 0H1K0000 0H1L2Z00 0H1M0000 0H1N2a00 0J1O2b5A 0J1P2M54 0J",
  "1O2c5A 0J142d58 0J1Q2e54 0J1R2f5B 0J1R2g5B 0H1S0000 0H1T0000 0H1U0000 0H1V0000 0H1W0000 0H1X00",
  "00 0H1Y0000 0J1Z2h54 0H1a0000 0H1b0000 0H1c0000 0H1b0000 0H1d0000 0H1e0000 0H1f0000 0H1g0000 0",
  "H1h0000 0H1i0000 0H1j0000 0H120000 0H1k0000 0H1l0000 0H1m0000 0H1n0000 0H1b0000 0H1o0000 0H1o0",
  "000 0H1o0000 0H1p0000 0H1p0000 0H1p0000 0H1q0000 0H1r0000 0H1s0000 0H1t0000 0H1u0000 0H1v0000 ",
  "0H1w0000 0H1A0000 0H1o0000 0H1x0000 0H1x0000 0H1y0000 0H1z0000 0H1+0000 0H1E0000 0H1C0000 0H1-",
  "0000 0H1-0000 0H1E0000 0H200000 0H210000 0H1F0000 0H220000 0H230000 0H230000 0H230000 0H240000",
  " 0H250000 0H250000 0H250000 0H260000 0J1Z2i54 0J1Z2j54 0J1Z2k54 0J1Z2l54 0J1Z2m54 0J272n58 0J2",
  "82o5C 03292p5D 032A0000 032A0000 032A0000 032A0000 032B0000 032C0000 032D0000 03292q5E 03292r5",
  "E 032E2s00 0J2F2t5F 032G2u00 032G2v00 032G2w00 032G2x00 0H2H0000 0H2H0000 0H2I0000 0H2J0000 0H",
  "2J0000 0H2J0000 0H2J0000 0H2J0000 032G2y00 0H2K0000 032L2z00 032L2+00 032M2-00 032M3000 032N31",
  "00 032N3200 032O0000 032P0000 032P0000 032P0000 032P0000 032Q0000 032R0000 032S3300 032S3400 0",
  "32N3500 032T3600 032T3700 032U2s00 032N3800 032L3900 032L3A00 032V3B00 032V3C00 032V3D00 032V3",
  "E00 032N3F00 032M3G00 032W2v00 032W2u00 032X3H00 032X3I00 032S3J00 032T2s00 032V3K00 032W2y00 ",
  "032X3L00 032Y2-00 032Y3000 032Y3G00 032Z3M00 032a3600 032Z3N00 032b3O00 032b3P00 032Z3Q00 032a",
  "3700 032Z3R00 032c3S00 032c3T00 032c3U00 032c3V00 032d3W00 032d3X00 032d3Y00 032d3Z00 032d3a00",
  " 032d3b00 032d3c00 032d3d00 032b3e00 032Z3f00 032d3g00 032d3h00 032d3i00 032d3j00 032c3k00 032",
  "d3l00 032d3m00 032d3n00 032d3o00 032d3p00 032d3q00 042e3r5G 042f3s5G 042g3t00 042h3u5H 042i3v5",
  "H 042j3w5I 042k3w5I 042l3x5I 042m3t00 042n3y00 042o2s00 042p0000 042q0000 042r0000 042s0000 04",
  "2r0000 042t0000 042u0000 042v0000 042w0000 042o0000 042x0000 042y0000 042z0000 042+0000 042-00",
  "00 04300000 042-0000 04310000 04320000 04330000 04340000 04350000 04360000 04370000 04380000 0",
  "42q0000 04390000 043A0000 063B3z00 043C0000 04320000 043D0000 043E0000 043F0000 043G0000 04320",
  "000 042q0000 043H0000 043H0000 043I0000 043J0000 043K0000 043L0000 042s0000 043L0000 043L0000 ",
  "043M0000 043N0000 043O0000 043P0000 042r0000 042u0000 043Q0000 043R0000 042n0000 043S0000 043T",
  "0000 043U3+5J 043V3-5J 043W2y00 043X405I 043Y405I 043Z405I 043a405I 043Y405I 043Z405I 043b415I",
  " 043c425I 043d435I 043e445I 043f455I 043g465I 043h475I 043i485I 043j495I 043c425I 043k4A5I 043",
  "l4B5I 043m405I 043Z405I 043n405I 043n405I 043n405I 043o405I 043o405I 043p405I 043q0000 043r000",
  "0 043s0000 043t4C5K 043u4D5K 043v4E5L 043w0000 043x0000 043y4E5L 043z4F5L 043+0000 043-0000 04",
  "400q00 04410000 0442405I 04430s00 04442s00 04440000 04453F00 04460000 04473G00 04484G5L 044900",
  "00 044A0000 044B0000 044C0000 044B0000 044D0000 044E4G5L 044F0000 044G4G5L 044H0000 044I0000 0",
  "44J4G5L 044K0000 044L0000 044M0000 044N0000 044O0000 064P4H00 044Q0000 044E4G5L 044F0000 044G4",
  "G5L 044R4I5L 044S0000 044T4J5L 044U4K5L 044V4L5L 044W4M5L 044X4N5L 044Y4O5L 044Z4P5L 044a4Q5L ",
  "044T4J5L 044b4R5L 044c4S5L 044d0000 044e0000 044f0000 044g4G5L 044F0000 044G4G5L 044M0000 044h",
  "0000 044h0000 044i0000 044j0000 044k0000 044l4G5L 044m0000 044k0000 044l4G5L 044k0000 044l4G5L",
  " 044n0000 044o4G5L 044o4G5L 044p0000 044q0000 044r0000 044s0000 044t0000 044u0000 044v4G5L 044",
  "w3J00 044x2s00 044y0t00 044M0000 044z0u00 044+0v00 044z0w00 044s0000 044m0000 044s0000 044-0x0",
  "0 04500y00 04510z00 04520000 044t0000 04530000 04540+00 04550000 06564H00 04570000 04580000 04",
  "590000 045A4T5L 045B4T5L 045C4T5L 045A4T5L 045B4T5L 045D4U5L 045E4V5L 045F4W5L 045G4X5L 045H4Y",
  "5L 045I4Z5L 045J4a5L 045K4b5L 045L4c5L 045E4V5L 045M4d5L 045N4e5L 045O4T5L 045B4T5L 045P4T5L 0",
  "45P4T5L 045P4T5L 045Q4T5L 045Q4T5L 045R4T5L 045S3K00 045T4T5L 04004f5M 045U0000 04004g5M 04004",
  "h5M 045V2y00 045W405I 045X3L00 045Y4G5L 045Z0000 045Y4G5L 045Y4G5L 045a405I 045b4i5L 045c0000 ",
  "045d0000 045e0000 02004j5N 04004k5O 04004l5P 04004m5P 04004n5O 045f405I 04004o5O 04004p5Q 045g",
  "4G5L 04004q5O 04004r5O 045h4G5L 04004s5O 04004t5O 04004u5O 04004v5O 04004w5O 04004x5O 04004y5O",
  " 04004z5O 04004+5O 04004-5O 0400505O 0400515O 0400525O 0400535O 045i3G00 045j0000 045k0000 045",
  "l0000 0200545R 0400555O 0400565S 0400575T 0400585O 0400595O 04005A5O 02005B5N 04005C5O 04005D5",
  "U 02005E5N 04005F5O 02005G5N 02005H5N 04005I5O 04005J5O 04005K5O 04005L5O 04005M5O 04005N5O 04",
  "005O5O 04005P5L 045m405I 04005Q5L 045n405I 045n405I 065o3z00 045p5R5I 045q5R5I 045r5R5I 045p5R",
  "5I 045q5R5I 045s5S5I 045t5T5I 045u5U5I 045v5V5I 045w5W5I 045x5X5I 045y5Y5I 045z5Z5I 045+5a5I 0",
  "45t5T5I 045-5b5I 04605c5I 04615R5I 045q5R5I 04625R5I 04625R5I 04625R5I 04635R5I 04635R5I 04645",
  "R5I 04655d5I 04665d5I 04675d5I 04655d5I 04665d5I 04685e5I 04695f5I 046A5g5I 046B5h5I 046C5i5I ",
  "046D5j5I 046E5k5I 046F5l5I 046G5m5I 04695f5I 046H5n5I 046I5o5I 046J5d5I 04665d5I 046K5d5I 046K",
  "5d5I 046K5d5I 046L5d5I 046L5d5I 046M5d5I 046N3e00 046O5R5I 046P3f00 046Q5d5I 046R5p5I 046S5p5I",
  " 046T5p5I 046R5p5I 046S5p5I 046U5q5I 046V5r5I 046W5s5I 046X5t5I 046Y5u5I 046Z5v5I 046a5w5I 046",
  "b5x5I 046c5y5I 046V5r5I 046d5z5I 046e5+5I 046f5p5I 046S5p5I 046g5p5I 046g5p5I 046g5p5I 046h5p5",
  "I 046h5p5I 046i5p5I 046j3k00 046k5p5I 026l5-5V 046m3l00 046n5d5I 0400605I 0400615I 046o625I 04",
  "6m3m00 0400635I 0400645I 046m3n00 0400655I 046m3o00 0400665I 046m3p00 0400675I 046m3q00 040068",
  "5I 0400695L 04005R5I 02006A5W 01006B5X 02006C5Y 026p6D5Z 02006E5a 026q6F5a 01006G5b 02006H5c 0",
  "2006I5a 02006J5d 02006K5a 016r6L5e 016s6M4- 016s6N4- 016s6O4+ 016s6P4+ 016s6Q4- 016s6R4- 016s6",
  "S4- 016s6T4- 016s6U4- 016s6V4- 016s6W4- 016s6X4- 016s6Y4- 016t6Z5f 016s6a4+ 016s6b4- 016s6c4- ",
  "016s6d4- 016s6e4- 02006f5g 016u6g5h 016u6h5h 016s6i5i 016s6j5i 016u6k5h 02006l5g 016v6m5j 0200",
  "6n5k 016w6o5h 016w6p5h 016v6q5l 016s6r5i 016v6s5m 016v6t5n 016v6u5o 076x6v5p 016v6w5j 016w6x5h",
  " 016v6y5m 016v6z5q 016v6+5r 016v6-5s 016v705t 026y715u 026z0000 076+0000 026-0000 026-0000 027",
  "00000 02700000 02700000 02700000 02700000 02700000 02700000 02710000 02710000 02710000 0271000",
  "0 02710000 02710000 02710000 02710000 02710000 02710000 02710000 02710000 02720000 02720000 02",
  "720000 02720000 02720000 02720000 02737200 02747300 0175745v 0175755v 0175765w 0175775x 027600",
  "00 02777800 0175795y 01757A5z 02780000 02790000 027A0000 02730000 027B0000 01756s5m 01757B5+ 0",
  "27C0000 01006p5h 026x0000 01757C5v 01757D5- 01007E60 01757F61 01757G62 027D0000 01757H63 01757",
  "I64 01757J65 01757K66 01757L67 01757M68 01757N69 01757O6A 01757P6B 01757Q6C 01757R6D 027E0000 ",
  "027F0000 027G0000 01007S5j 01756y5m 01007T6E 01757U6F 01757V6G 01757W6H 01757X6I 01757Y6J 0175",
  "7Z6K 01757a6L 01757b6M 01757c6N 01006x5h 01007D5- 01007C5v 01007d6O 01007H63 01007e6P 01007f6Q",
  " 01007g6R 01007h6S 01007i6T 01006w5j 01007j5- 01006y5m 01007k6U 01007U6F 01007l6V 01007m6W 010",
  "07n6X 01007o6Y 01007p6Z 03007q00 03007r00 03007s00 03007t00 03007u00 03007v00 0J7H7w6a 07007x6",
  "b 0O007y6c 07007z6d 07007+6e 0O007-6f 0700806g 0700816h 0O00826i 0700836j 0700846k 0O00856l 07",
  "00866m 0O00876c 0O00886c 077I896n 0O008A6f 0O008B6f 0O008C6i 0O008D6i 0O008E6l 0O008F6l 0H008G",
  "6o 0H008H6p 0O008I6c 0O008J6q 01008K6r 01008K6s 0O7J8L6q 0O008M6f 0O008N6q 0O008O6i 0O008P6q 0",
  "O008Q6l 0O008R6q 0H008S6t 0H008S58 0H008S6u 0H008T6v 0H008U5C 0H008V6w 0H008W6x 0H008X6w 0H008",
  "Y6x 017K0000 016s8Z5E 017L0000 0O7M8a00 017N0000 017N0000 010j8b6y 017O8c6z 017P0000 0H008d6w ",
  "0H008e6x 017Q8f6+ 016s8g5D 017R8h6+ 016s8i5E 016s8j5E 016s8k5E 016s8l5E 09008m6- 09008n70 0H00",
  "8o71 017S0000 017T0000 01008p72 0O7M8q00 017U8r73 097V8s70 0H008t74 017W0000 01008u75 0H008v76",
  " 0H008w5F 0H008x77 0O7X0000 0O7Y0000 017Z8r78 017Z8r79 017a8y75 017b8r7A 017W0000 017c0000 017",
  "d0000 017d0000 017e0000 017f0000 017g0000 09008z7B 09008+70 0O008-7C 0H00907D 0100915u 010j927",
  "E 010j926z 0H00937F 017h3G00 017i0000 077j0000 0100947G 0O00957H 0H00967I 016u9700 017k987J 0H",
  "00997K 077l0000 0O7m0000 077n0000 077o0000 077p0000 016s9A7L 017q9B00 0O7r0000 0O7r0000 0O7s00",
  "00 0O7t0000 017u0000 017v0000 0O7w0000 0O7x0000 077y0000 077z0000 077+0000 077-0000 07800000 0",
  "7810000 0O820000 0O830000 0O840000 0O850000 0O860000 0O870000 0H009C7D 01009D7M 0O009E7N 017k9",
  "F7O 0H009G7I 0O009H7P 0O009I7Q 0O009J7R 0H009K7D 017h3J00 0H009L7I 01882s00 0O009M7S 0O009N7T ",
  "01009O5u 0A009P7U 0B009Q7V 0H009R7W 03009S5L 01009T7X 01009U5u 01009V7Y 01009W7Z 01009X7a 0H00",
  "9Y7b 01009Z7c 01009a5u 01009b7d 0A009c7e 0B009d7f 01009e7g 0H009f7h 01899g7i 01009h5u 01009i7j",
  " 018A2y00 01009j7k 01009k7l 01009l7m 01009m7m 01009n7n 0H009o7o 018B9p7p 0A8C9q7e 0B8D9r7f 018",
  "E9s7i 01009e7q 01009i7r 018F9700 016w0000 018G9t7m 01009n7s 098H0000 01009u7t 0C009v7u 0D009w7",
  "v 0C009x7w 0D009y7x 0C8I9z7w 0D8J9+7x 016v0000 018K0000 018L0000 018M0000 018N0000 0A009-7y 0B",
  "00A07z 0300A15I 0100A27+ 0A00A37e 0B00A47f 01009e7- 01009e80 01009e81 01009e82 0A00A583 0B00A6",
  "84 0A00A77e 0B00A87f 0A00A985 0B00AA86 0A00AB7e 0B00AC7f 0H00AD7W 0100AE5u 0100AF5u 0H00AG7h 0",
  "H00AH7W 0H00AI7h 0100AJ87 0H00AK00 0H00AL00 0H00AM88 0100AN7X 016sAO00 0100AP89 0100AQ8A 0100A",
  "R8B 0100AQ8C 0100AP8D 037HAS00 0100AT7c 0100AU7d 0100AV8E 0100AV7p 0100AU8F 0H00AW8G 0100AX00 ",
  "0100AY8H 018O0000 0100AZ8I 018PAa00 0100Ab8C 0100Ac8D 0100Ad8D 0100Ae8C 018QAf8C 018RAg8D 018S",
  "0000 0100Ah8J 017q0000 017q0000 0100Ai00 0H00Aj8K 0100Ak8L 0100Al8M 015f0000 018TAm00 0100An7p",
  " 0100Ao8F 018UAp8F 0H00Aq8N 0100Ar8O 0100Ar7p 0500As00 018V0000 018W0000 0100At8P 0100Au8B 018",
  "XAm00 0100Av8Q 018Y0000 0H00Aw8R 018ZAm00 018aAx8L 0100Ay7p 018b0000 018cAz8P 018dA+8Q 0100A-0",
  "0 018e0000 0100B08S 0100B18T 0100B18C 0100B08D 037HB200 0100B37+ 0100B48U 0100B47p 0100B38F 01",
  "00B500 0100B68C 0100B78D 0100B88D 0100B98C 0100BA7p 0100BB8F 0100BC8V 0100BC7p 0500BD00 0100BE",
  "7p 0100BF8W 0100BF8C 0100BG8C 0100BH8C 0100BI8X 0100BI7p 0500BJ00 0100BK7p 0500BL00 0100BM8Y 0",
  "18fBN59 0100BO00 0H00BP8G 0H00BQ8N 0H00BR8G 0H00BS8N 0100BT8Z 0100BT8a 0100BT8b 0100BT8c 0100B",
  "U8d 0100BV00 0100BW00 0H00BX00 0100BY7X 018gBZ00 0100BY8e 0100Ba8f 0100Bb8g 018h0000 0100Bc00 ",
  "0100Bd00 0100Be00 0100Bf00 0100Bg8h 0100Bh8i 0100Bi8j 0100Bj00 0100Bk00 0100Bl00 0H00Bm00 0100",
  "Bh8k 0100Bh8l 018i0000 018j0000 0175Bn00 0175Bo00 0100BU8m 0100Bh8n 0100Bp8o 0100Bq00 0100Bh8p",
  " 018k0000 0100Br8q 0100BU8r 018T0000 0O00Bs00 0100Bt00 0100Bg8s 0100Bh8t 0100Bi8u 0100Bh8v 010",
  "0Bi8w 0100Bi8x 0100Bu00 0500Bv00 0100Bg8y 0100Bw8z 0100Bh8+ 0100Bh8- 0100Bx90 0100BU91 0100Bh9",
  "2 018X0000 0100Bh93 0100Bh94 0100Bh95 0100Bh96 0100Bh97 0100Bh98 0100BU99 0100By00 018l0000 01",
  "00Bz9A 0100Bh9B 0100Bh9C 0100B+9D 018m0000 018Z0000 0100B-9E 017Z0000 0100Bh9F 0100Bi9G 0100Bi",
  "9H 0100Bi9I 0100Bg9J 018n0000 018o0000 0100Bh9K 0100Bx9L 0100Bx9M 0100Bw9N 018p0000 0100BU9O 0",
  "100Bh9P 0100BU9Q 0100Bh9R 0100Bh9S 0100Bh9T 0100BU9U 0100Bh9V 0100Bh9W 0100Bh9X 0100Bh9Y 0100B",
  "U9Z 0100Bh9a 0100Bh9b 0100Bh9c 0100Bh9d 0100BU9e 0100BU9f 0100BU9g 018q0000 018r0000 018s0000 ",
  "0100C000 0100Bh9h 0100B+9i 0100B+9j 018t0000 0100Bz9k 017b0000 017b0000 0100Bi9l 0100Bx9m 0100",
  "BU9n 0100BU9o 0100BU9p 0100BU9q 0100BU9r 0100Bh9s 0100Bh9t 0100Bh9u 0100BU9v 0100BU9w 0100BU9x",
  " 0100BU9y 0100Bh9z 0100Bh9+ 0100Bh9- 0100BUA0 0100BUA1 0100BUA2 018u0000 01009B00 0100B+A3 010",
  "0BUA4 018v0000 0100BUA5 0100BUA6 0100BUA7 0100BUA8 0100BUA9 0100BUAA 018u0000 018w0000 018w000",
  "0 0100BzAB 0100B+AC 0100C100 0100C200 0100B-8m 0100BgAD 0100B+AE 0100B+AF 0100BiAG 0100C300 05",
  "00C400 0100BzAH 0100B-91 0100B-99 0100BgAI 0100BiAJ 0100B+AK 0100BiAL 0100BiAM 0100BgAN 0100B-",
  "9O 0100B-9Q 0100B-9U 0100B-9Z 0100B-9e 0100B-9f 0100B-9g 0100BiAO 0100BiAP 0100BgAQ 0100BiAR 0",
  "100B-9n 0100B-9o 0100B-9p 0100B-9q 0100B-9r 0100B-9v 0100B-9w 0100B-9x 0100B-9y 0100B-A0 0100B",
  "-A1 0100B-A2 0100BiAS 0100B-A5 0100B-A6 0100B-A7 0100B-A8 0100B-A9 0100B-AA 0100C500 0500C600 ",
  "0100C700 0500C800 0100BTAT 0100BTAU 0100BTAV 0100BbAW 0100BhAX 0100BhAY 0100BhAZ 0100BhAa 0100",
  "BhAb 0100BhAc 0100BhAd 0100BhAe 0100BhAf 0100BhAg 0100BhAh 0100BhAi 0100BhAj 0100BhAk 0100BhAl",
  " 0100BhAm 0100BhAn 0100BhAo 0100BhAp 0100BhAq 0100BhAr 0100BhAs 0100BhAt 0100BhAu 0100BhAv 010",
  "0BhAw 0100BhAx 0100BhAy 0100BhAz 0100BhA+ 0100BhA- 0100BhB0 0100BhB1 0E00C900 0100AO00 018x000",
  "0 01003F00 0100CA00 0H00CB00 0100CC00 0100CD00 0100CE00 0100CF00 018g0000 0100CG00 0100CH00 01",
  "00Bn00 0100Bo00 0100CI00 0100CJ00 01003l00 0F00CK00 0100CL00 0H00CM00 0H00CN00 01750000 0100CO",
  "00 0H00CP00 0100CQ00 018y0000 0100CR00 0100CS00 0100CT00 0H00CU00 0100CV00 0H00CW00 0100CX00 0",
  "100CY00 0100CZ00 018z0000 0H00Ca00 018+0000 018-0000 0H00Cb00 01900000 0100Cc00 0100Cd00 0100C",
  "e00 01910000 0100Cf00 0100Cg00 0100Ch00 0100Ci00 0100Cj00 0100Ck00 01920000 0100Cl00 0100Cm00 ",
  "0100Cn00 0100Co00 0100Cp00 0100Cq00 0100Cr00 0100Cs00 01002s00 0100Ct00 0100Cu00 0100Cv00 0100",
  "Cw00 0100Cx00 0100Cy00 0100Cz00 01003m00 0F00C+00 0100C-00 0100D000 0100D100 0100D200 0100D300",
  " 01002y00 0100D400 0100D500 0100D600 0100D700 0100D800 01003n00 0F00D900 0100DA00 0100DB00 010",
  "0DC00 0100DD00 0100DE00 0100DF00 0100DG00 01003o00 0F00DH00 0100DI00 0E00DJ00 0100DK00 0100DL0",
  "0 0100DM00 0100DN00 01003f00 0E00DO00 0E00DP00 0100DQ00 01003K00 0100DR00 0100DS00 0100DT00 01",
  "00DU00 01003p00 0100DV00 0100DW00 0100DX00 0100DY00 0100DZ00 0100Da00 0100Db00 01003q00 0100Dc",
  "00 01003k00"]

end Script.Automaton

end EmbedScaffold
