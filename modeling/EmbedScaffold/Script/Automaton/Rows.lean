/-!
# Rows of the automaton

What the states do with a token and behind a rule.  A row lists only what differs from an earlier
row, whose number is counted from one; zero stands for a row without entries.  Each group of
numbers ends with the set of symbols that it is about, and sets them to nothing where its state or
list is zero.
-/

namespace EmbedScaffold

namespace Script.Automaton

/-- What a state reduces: the row it departs from, and then lists of reductions, counted from one,
with the tokens in front of which they are made. -/
def reductionRows : List String := [
  "00 000100 0002010302 000403 0302040005 000506 000606 000706 000806 0309070008 030209 030A07000",
  "8 030B070008 03020A 000C00 000D00 030E0B0008 03000C 0A0A0D000E 0I000F 0K020G 0K020H 0K020I 000",
  "F0J 0O0F05000K 0P0F0A0009 0O000L 0R0F0A000M 0R000M 000G0N0H0O0I0P 000J0Q 000K0Q 000L0Q 0X0005 ",
  "0U0G0R000P 000M0Q 000N0N0O0O 000P0N0Q0O 000R0N0S0O 000T0N0U0O 000V0N0W0O 000X0N0Y0O 000Z0N0a0O",
  " 000b0S 000c0S 000d0T 000e0U 030f0V020W000X 0m000Y 0m020V 0m000Z 0p020X 0m020a000b 0m020X000V ",
  "0s09070008 0s0209 000g0N 0Y0L0c000d 0Z0G0c000d 0s0A070008 0s0B070008 0s020A 0s0E0B0008 0s000C ",
  "0a0M0c000e 0s000D 000h0N 0t0A0D000E 0n020f 000i0g 000j0h 0b000O 000k0i 000l0j 0c000O 0d000O 0e",
  "000O 0f000O 0g000O 0h000O 000m0j 0V000R 0W000R 000n0k 0w0L05000l 0x000l 110M05000l 1L0005 1202",
  "0m0008 1P020M000m 10000F 1P020A000m 000o0N 000p0N 000q0N 000r0N 000s0N 000t0N 000u0N 1P000m 00",
  "0v0N 000w0N 000x0N 000y0N 000z0N 000+0N 000-0N 00100N 00110N 00120N 00130N 00140N 00150N 00160",
  "N 00170N 00180N 00190N 001A0N 001B0N 001C0N 001D0N 001E0N 001F0N 001G0N 001H0N 001I0N 001J0N 0",
  "01K0N 001L0N 001M0N 001N0N 001O0N 001P0N 001Q0N 001R0N 15000D 10020V000Z 0m020X 001S0n 001T0n ",
  "001U0n 000n0n 0r020o 1R020V000Z 0r020V 001V0p 001W0p 001X0p 1K000q 0o020X 0t020V 0u020V 2E0n05",
  "000r 2B1S05000r 2C1T05000r 2D1U05000r 0y020V 0z020V 2O020A 0+020V 0-020V 10020V 14020V 1P020V ",
  "1Q020V 1R020V 1S020V 1a020V 001Y0s 2f1Y0t 000G0u0I0P 001Z0v 2i1Z0t 001a0w 001b0w 001c0x 2h000P",
  " 000L0u 2F0002 000H0y1d070I0P 000O0u 000Q0u 000S0u 000U0u 000W0u 000Y0u 000a0u 2j1Z0z 001e0y1f",
  "071g0P 001h0u 001i0u 001j0u 2m1c0+ 001k0u 001l0u 001m0y1n071o0P 341m0L000P 001p0u 001q0u 001r0",
  "u 000J0u 001s0u 001t0u 001u0- 001v0u 001w0u 001x0u 001y0u 001z0u 001+0u 001-0u 00200u 000K0u 0",
  "0210u 00220u 00230u 00240u 00250u 00260u 00270u 00280u 000M0u 2f1Y05000r 3V1Y0t 2p0010 002911 ",
  "002A11 001l11 002B11 002C12 3c2C13 002C14 3e0015 3c2C16 3e2C17 3h0018 3e2C19 3g2C1A 3h2C1B 3f0",
  "01C 002D11 002111 002E11 002F11 2z1e0L0010 351o0P0010 2q0H0L0010 2i1Z05000r 3u1Z0t 2k1a05000r ",
  "3r1e1D000K 3S2705001E 2l1b05000r 2m1c05000r 3s1m1D000K 3T2805001E 3t0G1F0004 3t0H1D000K 002G1G",
  " 2h000r 2p0205000r 45000A 3v1Z0z 4609070008 3Y2905000K 2+1h05000r 2-1i05000r 301j05000r 3+1c0+",
  " 321k05000r 3Z2A05000K 331l05000r 3a1l05000K 3-000P 361p05000r 3b2B05000K 371q05000r 381r05000",
  "r 2r0O05000r 3A1s05000r 3B1t05000r 3C1u05000r 3D1v05000r 3c2C05000K 3E1w05000r 3d2C05000K 3e2C",
  "05000K 4V0015 4S2C16 4V2C17 4Y0018 4V2C19 4X2C1A 3l2C05000K 4W001C 3F1x05000r 3G1y05000r 3H1z0",
  "5000r 3n2D05000K 3I1+05000r 3J1-05000r 3K2005000r 3M2105000r 3o2105000K 2t0S05000r 3N2205000r ",
  "3p2E05000K 3O2305000r 3P2405000r 3Q2505000r 2s0Q05000r 2v0W05000r 3R2605000r 3q2F05000K 460A07",
  "0008 460B070008 4N0N1F001H 4t0P1F001H 4n0R1F001H 2u0T1F001I 4u0V1F001H 2w0X1F001I 2u0U05000r 2",
  "w0Y05000r 2x0Z1F001I 2x0a05000r 4Q1u0A0009 3x1g07001J 3-1o07001J 410I07001K 4F2A0A0009 4H1l0A0",
  "009 4K2B0A0009 4S2C0A0009 4U2C0A0009 4V2C0A0009 5G0015 4X2C0A0009 4Y2C0A0009 5J0018 5G2C19 4b2",
  "C0A0009 4c2C0A0009 5H001C 4h2D0A0009 4m210A0009 4p2E0A0009 4w2F0A0009 450009 49290A0009 460f0V",
  "2H0M0009 460E0B0008 002I07 46001L 002J0D2K092A08 4L2L0V2M0M001M 002N07 002O1N 3x1g0A1f0I001O 3",
  "-1o0A1n0I001O 410I0A1d0I001F 002P0U 002G0T 5c000A 480A0D000E 581f1P000E 591n1P000E 5A1d1P000E ",
  "002Q1Q 002K1Q 57000T 002A1R 001l1R 002B1R 3c000L 3d000L 3e000L 5v0015 5t2C16 5v2C17 5y0018 5v2",
  "C19 5x2C1A 5y2C1B 5w001C 002D1R 00211R 002E1R 002F1R 002A1S 001l1S 002B1S 5t2C0m000M 5u2C0m000",
  "M 5v2C0m000M 6B0015 5x2C0m000M 5y2C0m000M 6E0018 6B2C19 5-2C0m000M 602C0m000M 6C001C 002D1S 00",
  "211S 002E1S 002F1S 5Y000F 00291R 6O021T 00291S 002A1U 001l1U 002B1U 5t2C0A000M 5u2C0A000M 5v2C",
  "0A000M 6X0015 5x2C0A000M 5y2C0A000M 6a0018 6X2C19 5-2C0A000M 602C0A000M 6Y001C 002D1U 00211U 0",
  "02E1U 002F1U 6O020H 00291U 002R1Q 6O020I 002S0m 002O0A 002T1Q 002U09 002V1Q 002H1V 002H1W 6t2W",
  "1Q 6u2H05 6t2X1Q 002Y1X 002Z1Y 002a1Z 002b1a 002c1Z 002d1Z 002e1Z 002f1Z 000L1b 000G1b 002H0V ",
  "002g1b 77001c 002h1b 6r2U1d 002i1b 000M1b 002j1X 002k1X 001w1X 00241X 00261X 002l1e 002m1f 002",
  "n1g 001o1h 002o1h 002p1i 002q1h 0k0005 002r1h 002s1j 43000D 000I1k 001g1k 002t08 002u0z 7L1o08",
  "001l 002v1m 002w1n 002x08 002y09 002z08 7M2o08001l 7O2q08001l 7Q2r08001l 00271o 00281o 000A07 ",
  "7i0A0P 002+1p 002H0M 002-1p 00301i 00311p 00321p 00331p 00340T 00351i 00361i 00371i 00271q 002",
  "81q 00311i 00331i 001k1p 001r1p 001y1p 001z1p 00201p 00251p 001k1i 001r1i 001y1i 001z1i 00201i",
  " 00251i 000B07 002s08 89001r 5g000D 00381s 00391t 5h000D 7l3A1Q 003B08 003C1u 003D1s 003E1t 00",
  "0I1v 001g1v 7L000B 002M1w 003F1x 003G1Q 002X09 003A09 003H1y3I1Q 003J0S 003J1P 003K1z 003L1x 0",
  "03M1Q 8H3B0D 003N1+ 003N1r 003O1x 003P09 003Q09 003R1x 000j1- 003S20 003T21 8G000M 8R2X0D 003U",
  "21 003V08 003W21 8d3P0D 003X1Q 002M1V 003Y1Q 8e3Q0D 000H08 003Z21 001m08 003a08 001+08 003b00 ",
  "003c20 003d20 003e20 003f20 003g20 003h20 003i20"]

/-- Where a state goes with a token: the row it departs from, and then the actions, the next state
and the tokens. The actions are twice the number of the list of reductions that may be made as well,
counted from one, and one more where the token only goes on with a repetition. -/
def shiftRows : List String := [
  "00 00008G22000Q23005q2400020m00IG2500NH2600Ip27006L2800Iq2900NI2A00NJ2B00Ll2C001x0V006M1c000H2",
  "D00NK1-000g2E00NL2F00Lm2G00Ln2H00NM2I002B2J002P2K001M2L001g0Z00Ji2M00Kb1s00Kc1t00Jj2N005+2O00K",
  "d2P002Q2Q003I2R003J2S00R32T003K2U00JE0z00BB2V00R42W00BC2X00Lo2Y008H2Z 02007s22003M2400Hs0X00FQ",
  "0D001R09005-2800072D001h0Z005n2O003N2a00D12b00Lq2W005s2c00HK2d005t2e000023 0300B609 0300B909 0",
  "3007+22004F24009R0900682800082D005o2O005u2c005v2e 06007-22004c2400692800092D005p2O005w2c005x2e",
  " 00008L22008K2f00Dk0m00B40900Mn251I1x0V000J2D4Y0h0M001M2L003h0P041g0Z04Ji2M00Kb1s00Kc1t00KM2N0",
  "0612O00Lf2P002R2g002Q2Q003I2R043J1A04R32T003J2h043K2U04JE0z00BB2V00R42W00BC2X00Lo2Y 0800Ax09 0",
  "8009t09 00098G22095q2409020m09IG2509NH2609Ip27096L2809Iq2909NI2A09NJ2B09Ll2C091x0V096M1c090H2D",
  "09NK1-090g2E09NL2F09Lm2G09Ln2H09NM2I092B2J092P2K091M2L091g0Z09Ji2M09Kb1s09Kc1t09Jj2N095+2O09Kd",
  "2P092Q2Q093I2R093J2S09R32T093K2U09JE0z09BB2V09R42W09BC2X09Lo2Y098H2Z 0000822200832f00Dr0m00Lw2",
  "5041+0V000B2D001L2L003w0P041j0Z04KT2M00LX1s00LY1t00Jn2N005y2O00Kk2P002i2g002o2Q004y2R043u1A04S",
  "X2T003u2h043v2U04Jg0z009j2V00R-2W00AV2X00Lo2Y 00008+22008v2f00DG0m00Lw25041+0V001A2D001O2L004J",
  "0P041i0Z04KT2M00LX1s00LY1t00Jn2N006h2O00Kk2P002i2g002v2Q005J2R044H1A04SX2T004H2h044I2U04Jg0z00",
  "9j2V00SE2W009Z2X00Lo2Y 02000023 08041x0V000h0M003L0P000009 0C0K3w0P 0F00000M 0D0K4J0P002p2g 0D",
  "002R2g 0D002p2g 0H000w0M 00008f22008c2f00Dk0m00Mn25041x0V000O2D001N2L004+0P041g0Z04Ji2M00Kb1s0",
  "0Kc1t00KM2N006B2O00Lf2P00312g003A2Q005l2R045N1A04Sd2T005N2h044z2U04JE0z00BB2V00Sf2W00C+2X00Lo2",
  "Y 0D00312g 0E006309 0E006409 0C002c0A042c0I 0E001V09 0E001W09 0E009Y09 0E009X09 0E00H209 0E00H",
  "309 0E006d09 0E006f09 0E008a22005r2400030m00QU26006j2800QV2A00NA2C000N2D00QW1-00KU2N006A2O00Lj",
  "2P008b2Z 0K002c0A042c0I 0000912200902f00DG0m00Lw25041+0V001B2D001P2L005Q0P041i0Z04KT2M00LX1s00",
  "LY1t00Jn2N006l2O00Kk2P003B2g003H2Q005j2R045O1A04Se2T005O2h045P2U04Jg0z009j2V00So2W00FO2X00Lo2Y",
  " 0D003B2g 0I003n0P 00008z22008u2f04DG0m00Lw25041+0V001E2D001Q2L004f0P041i0Z04KT2M00LX1s00LY1t0",
  "0Jn2N006g2O00Kk2P002w2g00302Q005L2R044d1A04SX2T004d2h044e2U04Jg0z009j2V00SO2W00Ez2X00Lo2Y 0D04",
  "DG0m002w2g 0I004C0P 0I004Z0P 0I004v0P 0I005G0P 0I005g0P 0C003x0X001+0V001j0Z00KT2M003u1A00SX2T",
  "003v2U00Jg0z00002i 0H003P0X001x0V001g0Z00Ji2M003J1A00R32T003K2U00JE0z00002i 0M004-0X001x0V001g",
  "0Z00Ji2M005N1A00Sd2T004z2U00JE0z00002i 0D004K0X001+0V001i0Z00KT2M004H1A00SX2T004I2U00Jg0z00002",
  "i 0b005R0X001+0V001i0Z00KT2M005O1A00Se2T005P2U00Jg0z00002i 0e004g0X00DG0m001+0V001i0Z00KT2M004",
  "d1A00SX2T004e2U00Jg0z00002i 00006D05 00001X05 00001U05 00007N05 00007U05 00007V05 00007Y05 000",
  "07a05 00007b05 00007c05 00007g05 0l008J22008I2f00DG0m001t0D000I2D001i0Z00B01P00602O003N2a00BE2",
  "X00000X 10009l1P 1000Aw1P 1000CY1P 1000DD1P 1000Dh1P 0m00Ip27007q2800Iq2900Jj2N006H2O00Kd2P000",
  "00X 1600KU2N006K2O00Lj2P 0o008U22008T2f00Du0m001y0D000K2D001k0Z00JI1P00652O003O2a00CF2X00000X ",
  "0l008l22008k2j00Dw0m00Is27007r2800It29006M1c000W2D001l0Z006F2O00D62X00000X 1000000S 0l008s2200",
  "8r2f00Dx0m001y0D000f2D001m0Z00LK1P006J2O003O2a00Dg2X00000X 1800LK1P 1A00NU1r003O2a 1800000S 0l",
  "003l0P00000X 1E00NU1r 0l00220D00Bd1r003p2a00000X 1E00OO1r 0l003p2a00000X 1E00P21r 1H00A31r 1H0",
  "0Hd1r 1J00Jz09 1D00001r 1J00K809 0m006t0800000X 0l006M1c00000X 0o008y22008x2j00Dw0m00JQ2700812",
  "800JR29000-2D001l0Z006k2O00Ex2X00000X 0l000o1r00000X 0l000q1r00000X 0l000r1r00000X 0l000u1r000",
  "00X 0l00121r00000X 0l00141r00000X 0l00151r00000X 0l00181r00000X 0m00000X 00008Z22008V2f00Dk0m0",
  "0Mn25001x0V000L2D001O2L001g0Z00KT2M00RJ2k00Kb1s00Kc1t00KM2N00662O00Lf2P002Q2Q005J2R004H2S00R32",
  "T004I2U00JE0z00BB2V00SE2W00BA2X00Lo2Y 1b00040m 0l00000X 1e00050m 0o00852200842f00Dr0m000C2D001",
  "j0Z00S72k005z2O002o2Q00000X 0o00060m00000X 0o00S72k00000X 0q00060m00000X 1i008-22008w2f001F2D0",
  "06i2O00302Q 0n00040m00000X 1c008e22008d2f000P2D006C2O003A2Q00Sd2T 0p00060m00000X 1i00932200922",
  "f001C2D006m2O003H2Q00Se2T 0o00952200942f001D2D006u2O00FR2X00000X 0000Lp0X001n2l00Ic0m00B40900I",
  "p2700Iq2m4Y0h0M003h0P00R82N00R92O00NO2P002R2g00Lo2Y 1A008j22008i2f000V2D006E2O00D42X00002a 1E0",
  "08X22008W2f000M2D00672O00CG2X00002a 0q00000X 0o00000X 0p00000X 1q00Ax09 0n00000X 1q009t09 1p00",
  "972200962f001G2D007l2O00FW2X 1p00992200982f001H2D007m2O00FZ2X 1p009B22009A2f001I2D007n2O00Fb2X",
  " 1p009H22009G2f001K2D007p2O00Ff2X 1p009F22009E2f001J2D007o2O00Fd2X 0000Nl2200Nk2n04Hu0X00B4091",
  "I1-0V4Y0h0M003h0P043i0Z00Lb1s00Lc1t00Kr2P002R2g00Nh2o00H42e 2200Ax09 22009t09 1q000h0M003L0P00",
  "0009 25001p2l000w0M 0000RP2p04Hu0X00B4094Y0h0M003h0P043i0Z00Lb1s00Lc1t00H52O002R2g00Nh2o00HM2e",
  " 2700RP2q00000X 2700Ax09 2800Ax09 27009t09 28009t09 0000S52200S42r041-0V003w0P00K-2P002i2g 2D0",
  "04J0P 0000RH2200RG2r041-0V000h0M003L0P00Kr2P002R2g 0000Jm2200Fk0m00B40900Jl0A4Y0h0M003h0P001r0",
  "Z002R2g 2D0K3w0P 2F00Li2P00000M 0000MJ2s00Nt2t 00006G05 0000SJ2200SI2r041-0V0K4J0P00K-2P002p2g",
  " 2I004J0P 2L004J0P 2G00Ax09 2G009t09 2I000w0M00Lk2P 0000Sj2200Si2r041-0V004+0P00Li2P00312g 2R0",
  "04J0P 2D002c0A042c0I 2F00000M 0000Nt2t 2Q00000M 2G000h0M003L0P000009 00000n2u 00007T08 00006c0",
  "5 00006e05 0000SS2200SR2r041-0V004f0P00K-2P002w2g 2c004J0P 2X000w0M 2N002c0A042c0I 0000Sr2200S",
  "q2r041-0V005Q0P00K-2P003B2g 2g004J0P 2L003n0P 2L004C0P 2L004Z0P 2L004v0P 2L005G0P 2L005g0P 2X0",
  "0000M 0000J32200Fk0m001z0A042c0I003w0P001r0Z002i2g 0000B4094Y0h0M003j0P002U2g 2q00Ax09 2q009t0",
  "9 00004L0P 0000Mh2200Fk0m002c0A042c0I004J0P041r0Z002p2g 00003y0P002j2g 00003w0P002i2g 00004J0P",
  "002i2g 2t002j2g 00003y0P 00000h0M003R0P002U2g 00000h0M003L0P002R2g 000K3w0P002i2g 000K3y0P002j",
  "2g 2-00000M 2+00000M 000K4J0P002p2g 000K4L0P002q2g 00004J0P002R2g 00004J0P002p2g 2t002q2g 2t00",
  "2U2g 33000w0M 32000w0M 00004+0P00312g 00004J0P00312g 2t00332g 0000500P00332g 00003R0P 000K3y0P",
  " 2w002c0A042c0I 2v002d0A042d0I 000K4L0P 0000500P 3J00002g 00004f0P002w2g 00004J0P002w2g 37002c",
  "0A042c0I 38002d0A042d0I 00004h0P002x2g 2t002x2g 00005Q0P003B2g 00005S0P003C2g 00004J0P003B2g 2",
  "t003C2g 00003n0P002p2g 00003o0P002q2g 00004C0P002p2g 00004D0P002q2g 00004Z0P002p2g 00004a0P002",
  "q2g 00004v0P002p2g 00004w0P002q2g 3Q00002g 00004h0P 00005G0P002p2g 00005H0P002q2g 00005g0P002p",
  "2g 00005h0P002q2g 00005S0P 00003o0P 00004D0P 00004a0P 00004w0P 00005H0P 00005h0P 0000240V00340",
  "Z00Pg2k00KN2v00Jg0z 0000240V00Jg0z 0000AQ05 3s00000V 0000Jg0z 3s00Ms2v009p2U00000z 3x00002U 00",
  "00AS05 0000AJ2w 0000200V002V0Z00Nc2k00Jr2v00JE0z 0000200V00JE0z 3x003+2x003z2y00401500411C0042",
  "1600431800442z00451900461A00472+00481B00492-005230 3x003+2x00421600461A00472+ 3x00472+ 4100003",
  "1 44004015 42000016 44000017 47004318 44000019 4600001A 4700001B 4500411C 3-00000V 0000JE0z 3-",
  "00M12v00BJ2U00000z 4F00002U 4F003U2x003S2y003W15003X1C003Y16003Z18003a2z003b19003c1A003d2+003e",
  "1B003f2-003T30 0000C82w 4F003U2x003Y16003c1A003d2+ 4F003d2+ 4H000031 4L003W15 4J000016 4L00001",
  "7 4O003Z18 4L000019 4N00001A 4O00001B 4M003X1C 4F00532x00512y00541500551C00561600571800582z005",
  "919005A1A005B2+005C1B005D2-005m30 4F00532x005616005A1A005B2+ 4F005B2+ 4U000031 4X005415 4V0000",
  "16 4X000017 4a005718 4X000019 4Z00001A 4a00001B 4Y00551C 4H003V0D006v08 4H003V0D007708 4H003V0",
  "D007808 4U4m510I 0000Iz3200Hs0X00Fp0m00FQ0D009a09001u0Z00Lb1s00Lc1t00Fv2O003N2a00Lt2o00Lo2Y00F",
  "w2c00HK2d00G52e 41003-0D008M1r 4100220D00BS1P 4100220D00D81P 41003-0D002D1c 41003-0D00LA09 410",
  "0220D00C91r 41003-0D008R1P 41003-0D00J-09 41003-0D002I1c 41003-0D008S1P 41003-0D000F0M 41003-0",
  "D00861r 41003-0D00871r 41003-0D000p1r 41003-0D002K1c 41003-0D00881r 41003-0D000s1r 41003-0D000",
  "t1r 41003-0D00891r 41003-0D008B1r 41003-0D008D1r 41003-0D000v1r 4k00J83200B70900Fx2O00Fy2c00G7",
  "2e 41003-0D008F1r 4100220D009w1P 4100220D00AK1r 41003-0D007x1P 41003-0D00K909 41003-0D007y1P 4",
  "k00JA3200Ay0900Fz2O00F+2c00G82e 41003-0D007z1r 4100220D00He1r 4k00JB3200Ca0900F-2O00G02c00G92e",
  " 41003-0D006b1r 4k00JC3200DF0900G12O00G22c00GA2e 4k00JD3200Dj0900G32O00G42c00GB2e 41003-0D0013",
  "1r 41003-0D00161r 41003-0D00171r 41003-0D00191r 41003-0D002M1c 41003-0D002O1c 41003-0D002F1c 4",
  "H007C08 4H007X1c007W05 3x004N2x004M2y004O15004P1C004Q16004R18004S2z004T19004U1A004V2+004W1B004",
  "X2-005K30 3x004N2x004Q16004U1A004V2+ 3x004V2+ 5S000031 5V004O15 5T000016 5V000017 5Y004R18 5V0",
  "00019 5X00001A 5Y00001B 5W004P1C 3x004j2x004i2y004k15004l1C004m16004n18004o2z004p19004q1A004r2",
  "+004s1B004t2-005M30 3x004j2x004m16004q1A004r2+ 3x004r2+ 5e000031 5h004k15 5f000016 5h000017 5k",
  "004n18 5h000019 5j00001A 5k00001B 5i004l1C 3x005U2x005T2y005V15005W1C005X16005Y18005Z2z005a190",
  "05b1A005c2+005d1B005e2-005k30 3x005U2x005X16005b1A005c2+ 3x005c2+ 5q000031 5t005V15 5r000016 5",
  "t000017 5w005Y18 5t000019 5v00001A 5w00001B 5u005W1C 0000Ju3200Hs0X00Fp0m001u0Z00Lb1s00Lc1t00G",
  "D2O003N2a00Lt2o00Lo2Y00GE2c00HK2d00GH2e 5S003s0M 4100Od1P 5q4m5T0I 5S004E0M 4100LM1P 5S004b0M ",
  "5S004x0M 5S005I0M 5S005i0M 5S00200V002V0Z00Nc2k00M12v 0000K03200Hs0X00Fm0D00Oz09003i0Z00Lb1s00",
  "Lc1t00GF2O003p2a00MW2o00Lo2Y00GG2c00HK2d00GO2e 0000Jv3300Fp0m00Fu0D00JH09001u0Z00Lb1s00Lc1t003",
  "O2a00RV2o 0000LI3200I00X001S0900Fn1c005F0Z00LN1s00LO1t00GJ2O00JL2o00Lo2Y00G62c00Hg2d00GT2e 000",
  "0L73200Hs0X003i0Z00Lb1s00Lc1t00GL2O003p2a00MW2o00Lo2Y00GM2c00HK2d00GU2e 6D001T0900Fo1c 004zLI3",
  "24zI00X4zFo1c4z5F0Z4zLN1s4zLO1t4zGJ2O4zJL2o4zLo2Y4zG62c4zHg2d4zGT2e 0000KP3300Fp0m00Fu0D00LJ09",
  "001u0Z00Lb1s00Lc1t003O2a00RV2o 6D009y0900Fr1c 6F00AD09 6D006Z0900Ft1c 6F006a09 0000L63300Fp0m0",
  "01u0Z00Lb1s00Lc1t003O2a00RV2o 2B00Hu0X00FQ0D003q0P003i0Z00RP2O000034 6N00H52O 6N00B409 6O00B40",
  "9 6N00Ax09 6O00Ax09 6N00CZ09 6O00CZ09 6N00DE09 6O00DE09 6N00Di09 6O00Di09 6N00RP2e00000X 0000L",
  "I2p00I20X000c0m005F0Z00LN1s00LO1t00GP2O00JV2o00GV2e4YOQ05 6Z00B409 6Z00Ax09 6Z00CZ09 6Z00DE09 ",
  "6Z00Di09 0000RP3500HN2400Hv0X003i0Z00Lb1s00Lc1t00Jt2N00H62O00Nn2o00Lo2Y00H72c00HO2d00HP3600HQ3",
  "7 6N00001Q 6O00001Q 6h00Fm0D00PQ0900000P 6j00H52O 6Z00001Q 6g00RP2400002N 6l00I20X00QZ2o00Hh2e",
  "00000P 0000LI3200I30X005F0Z00LN1s00LO1t00GQ2O00JW2o00Lo2Y00GN2c00Hi2d00GW3600GX37 6h00000P 6i0",
  "0000P 0000LI2p00I60X005F0Z00LN1s00LO1t00GR2O00JY2o00GY3600GZ37 6l00Fm0D00PQ0900000P 6l00I40X00",
  "Qd2o00Hj2e00000P 6l00I50X00Qf2o00Hk3600Hl3700000P 6l00I80X00Qr2o00Ho3600Hp3700000P 0000250V00R",
  "Z2k 6l00QZ2o00000P 6l00000P 6x00Qd2o 6x00Qh2o 6x00Qi2o 6x00Qs2o 6x00Qt2o 0057Lo2Y 0000HG05 000",
  "0HF05 6x002X2g00O92o 7500Hw0X00HS2e00002g 6x00Hx0X00OC2o00HT3600HU37 6x00Hy0X00HA2O00OD2o00HV3",
  "600HW37 005LHD1c 6x00H+0X00Om2o00HZ3600Ha37 6x00H-0X00Or2o00Hb3600Hc37 6x00I90X00Qv2o00Hq3600H",
  "r37 7500002g 25001o2l000038 6x00Hz0X00HB2O00OE2o00HX3600HY37 6x00OF2o 6x00OG2o 6x00Of2o 6x00Oi",
  "2o 6x00Oj2o 6x00On2o 6x00Oo2o 6x00Os2o 6x00Ot2o 6x00PE2o 6x00PF2o 6x00PL2o 6x00PM2o 6n00HH2O 6",
  "x00I70X00HI2O00Qg2o00Hm3600Hn37 6x00Qm2o 6x00Qo2o 6x00Qp2o 6x00Qw2o 6x00Qx2o 6x00Q+2o 6x00Q-2o",
  " 6x00R12o 6x00R22o 6x00OB2o 6x00Oh2o 6x00Ol2o 6x00Oq2o 6x00PD2o 6x00PK2o 7E001q2l 6x00Qe2o 6x0",
  "0Qn2o 6x00Qq2o 6x00Qu2o 6x00Qz2o 6x00R02o 00003g02 00004A02 00004Y02 00004u02 00005E02 00005f0",
  "2 0000NQ2200RB0X00Id0m00RC2k00LN1s00LO1t 0000260m00IJ3900KY2M00Js1f 0000I-3A002A0m00Nv0M00Jx3B",
  "00RX2k00BT3C 7y00IV39 0000260m00IM3900KY2M00KO1f 7z009x3C 7+00KO1f 0000260m00IP3900KY2M00KR1f ",
  "7z00KB3C 7+00KR1f 0000260m00IS3900KY2M00KS1f 7z00KH3C 7+00KS1f 7z00002k 7z00000M 005X260m5XIV3",
  "95XKY2M 8000002k 8000000M 8300002k 8300000M 8600002k 8600000M 0000M53D00RM0D00M30900Lb1s00Lc1t",
  " 0000MC2200RU2l00RS0D00RT0900Lb1s00Lc1t 8800000M 8J00J+3B00Bz3C 00002A0m00KZ2M00LC1s00LD1t 005",
  "ZI-3A5Z2A0m 8B00000M 8K00AC3C 8D00000M 8K00KE3C 8F00000M 8K00KK3C 2o00002i 8T00J222 8T00J322 8",
  "H00Me0900000D 8I00Rm0900000D 8W00Mi09 8X00Rt09 0000FQ0D009t09003q0P 0000Nv0M00Ig0P 00002e0H004",
  "G0P 8c003l0P1EO+05 8W000009 8X000009 00003-0D 8a00B409 004X3-0D 8a00Ax09 8a00CZ09 8a00DE09 8a0",
  "0Di09 0000JF3E00BH0z002T3F 0000JM3E00BY0z002T3F 0000Rd3D00Lb1s00Lc1t 0000Rj2l007J09002b3G 0000",
  "Ih0P 00001-0V003l0P 005nJM3E5n2T3F 0000OY3D00Lb1s00Lc1t 8q007S09 0000LB2200Fp0m001v0Z 0000Mh22",
  "00Fk0m001r0Z 8w00Rs22 005vRj2l5v2b3G 0000Jh3E009n0z002T3F 8o00A10z 0000II2200Jq3B00IT3H 0000Kq",
  "2200Fl0m003Q3I 0000Ht2400Jt2N00Lo2Y 00003l0P 0000K+2200Fq0m003Q3I 00008P2200200V002a0Z008Q2W 0",
  "000MS2200Bq3B00O13H 9100L422 00003q0P 9800Fu0D00JO09 9400L922 0000Fm0D00PQ09 00002f0A002g0I 91",
  "00LU22 00007v2200240V00390Z007w2W 0000M-2200A53B00Pn3H 9800Fu0D00LL09 9100LW22 0000N72200KC3B0",
  "0QQ3H 0000N92200KI3B00QS3H 0000IL2200Jq3B00IW3H 9100LT22 9100LV22 0000IO2200Jq3B00IY3H 0000IR2",
  "200Jq3B00Ia3H 0000I12400KW2N00Lo2Y 0000B11s00Ko3J 0000B11t00Kp3K 0000Na2200M00X001-0V 0000200V",
  "00Nc2k00Nd2v 0000M220006y08 0000RO2N00Lo2Y 0000No26006z08 0000Ir0D006-08 0000Ir0D007008 0000Nq",
  "2200MH0X001-0V 0000210D00Nr1r003m0P 0000Jw2N00Lo2Y 00001y0D003m0P00I+1P 0000B51s00L13J 0000B51",
  "t00L23K 91000022 0000Ny2200MP0X001-0V 00003V0D 92000024 0000Fs0m003Q3I 0000RB0X00Id0m 0000No26",
  "007E1c007D05 0000Ir0D007G08 0000Ir0D007H08 94000022 0000OL2200Ma0X001-0V 004p220D 006HL13J 006",
  "JL23K 004X3V0D 006NIr0D 8c004B0P 0000LE3L00K41s 0000LF3M00K41t 0000LG3L00K51s 0000LH3M00K51t 0",
  "06RLG3L 006TLH3M 0000K61s00LR3J 0000K61t00LS3K 0000240V00Pg2k00Ph2v 9c00Ja1P 9d00K71s 9e00K71t",
  " 0000AP1s00LZ3J 0000AP1t00La3K 9d00AR1s 9e00AR1t 0000Je1s00Ld3J 0000Je1t00Le3K 9d00Jf1s 9e00Jf",
  "1t 0000Qa2200ND0X001-0V 0000KQ2N00Lo2Y 9P000024 0000Qj2200NE0X001-0V 0000QY2200NF0X001-0V 0000",
  "Qb2200NG0X001-0V 00001s0V00NT2D 0000NV22006q08 0000NW22006r08 0000GS22 0000JG1y00M220 00003S0I",
  " 0000Fu0D00Iy09 0000Fm0D00BP09 00001-0V00270M 0000S22k 9a00000P 9c00000P 0000220D00BS1P 0000N+",
  "22001-0V 9500000V 0000LN1s00LO1t 0000Iu0D00MU09 0000JN1y 0000Fm0D00Bw09 0000Fu0D00J009 0000Fu0",
  "D00J109 0000Fm0D00Bx09 0053Fm0D 006LFu0D 0000Iv0D00Rg09 2z002d0H 0000OM22001-0V 0000230D00OO1r",
  " 00000U0m00JS0V 00003m0P 0000220D00By1P 00001y0D00J41P 006d1y0D 0000OS22001-0V 0000220D00C91r ",
  "0000Nv0M00CA3B00RX2k 0000Iw0D00Me09 00001-0V003t0M 0000Ix0D00Rm09 0000O-22001-0V 006l290D 0000",
  "220D00CD1r 006pJ50D 006rJ60D 8c00O+0500000P 0000Fu0D00JZ09 0000Fm0D009u09 0000RC2k A300000P 00",
  "00220D009w1P 9E00000V 0000Fm0D00A909 0000Fu0D00Jb09 0000Fu0D00Jc09 0000Fm0D00AA09 0000220D00AB",
  "1P 00001y0D00Jd1P 0000220D00AK1r At00AL3B 0000220D00AO1r 0000Fm0D00Pb09 0000Fm0D00Pc09 0000Fm0",
  "D00Pd09 0000220D00He1r At00KF3B 0000220D00Hf1r At00KL3B 00001w0V00QX2D 0000112u 2t002d0H 0000Q",
  "k22001-0V 0000Qy22001-0V 0000Qc22001-0V 0000Ql22001-0V 00002S0V 00000U0m 00006s08 00006v08 000",
  "0Ng2200RN0X 0000M220 0000Kw0D 0000JJ0m 00002G0V 00007508 00007608 00007708 00007808 0000Fl0m 0",
  "0001-0V 00000Y0m 00008N22008O2W AY00000Z 00007B1c007A05 0000O52200Re0X 00002X2g 00002Y2g 0000F",
  "j0m 00007F08 0000320V 0000JT3A 0000HD08 At00002k At00000M 0000Fs0m 00000d0m 00007Q1c007P05 000",
  "0Fq0m 00000a0m 00000c0m 00002h0H 00007t22007u2W B600000Z BE00002k BE00000M BK00002k BK00000M B",
  "M00002k BM00000M 0000RL3N 00002W2g 0000Ku22 0000Nf2P 00003k0P 0000RR1y 0000BQ3O 00008M1r 0000N",
  "s1- 00002Z2g 0000BQ3P 0000BX3Q 0000MU09 0000O622 0000L522 00003r0P 0000Rf22 0000Rg09 0000Rh1y ",
  "0000280M 00002D1c 0000JU22 0000LA09 0000Gc22 00008R1P 0000J-09 0000CA3B 0000OZ22 0000Ox22 0000",
  "0D0M 00002I1c 00008S1P 00000F0M 0000861r 0000871r 00000p1r 00002K1c 0000PT1r 0000881r 00000s1r",
  " 00000t1r 00008A1r 00008C1r 00008D1r 00000v1r 00003z0I 00002k2g 00009v3O 00008F1r 00002l2g 000",
  "02m2g 00002n2g 00009v3P 0000A03Q 00007x1P 0000K909 0000AL3B 00007y1P 00004M0I 00002r2g 00007z1",
  "r 00002s2g 00002t2g 00002u2g 0000CX3Q 0000KF3B 00004i0I 00002y2g 00006b1r 00002z2g 00002+2g 00",
  "002-2g 0000E83Q 0000KL3B 0000S93N 0000131r 0000161r 0000171r 0000191r 0000SM3N 0000SV3N 000051",
  "0I 0000352g 0000362g 0000372g 0000382g 00002M1c 00002O1c 00005T0I 00003D2g 00003E2g 00003F2g 0",
  "0003G2g 00002F1c"]

/-- Where a state goes behind a rule: the row it departs from, and then the next state and the
rules. -/
def ruleRows : List String := [
  "00 00R5006n3RKe0m0R3S6o3T8g3UD03HAz2kBD3VBB3WR63XIH2vA+3YIA2TNN2-HJ3ZR70zJk3a 020T3SRA3XLr3bLs",
  "3cD13dLt3eGC3aLu2dLv360000 030X3S 030Z3SMk3cMl2d 02A-3HLg3aM62dM736003f 06Mt2d 020A3S0000 00LP",
  "0m8E3U9U3H9S2k9k3V9j3WSF3XIK2v9T3YIB2THJ3ZS10zKm3a 09803US03XIC2TSG0z 080E3S 080G3S 06003g 0D8",
  "o3USg3XIE2TSh0z 080S3S 080T3S 080X3S 080Z3S 080b3S 080e3S 08RF29Ka3a003h 086x29003h 0M6+29 0M6",
  "N29 0M7229 0M7329 0M7K29 0M7R29 0M7Z29 0M7d29 0M7e29 0M7f29 0M7h29 0M7i29 0M7j29 0M7k29 0L6x29",
  " 0L6+29 0LNB29 0L7229 0L7329 0L7K29 0L7R29 0L7Z29 0L7d29 0L7e29 0L7f29 0L7h29 0L7i29 0L7j29 0L",
  "7k29 099I3USv3XIF2TSp0z 099D3USc3XID2TSP0z 09AW3H 0DBF3H 0EC-3H 0AEy3H 0qFP3H 0rE+3H 09DI3HJo3",
  "XLy1t8h3iLz3jKn3QJp3NL+37L-05 0yDJ3H 0yDm3HMp3jMq37 0D6w1y6o3TE33HKt3a 0-7O1yE53H 0-Lh3a 10Lh3",
  "a 0AFi3HKV3XMo1t8m3iLQ3QJp3NMr05 092C3k8q3UDK3HMG3XRW2- 0yDL3HNu1tMK3jML3Q003l 0yFU3H8t3i003m ",
  "13Ly1tKn3QL-05 142E3kE23HSu2- 15DH3HLx1tRE2-Kl3Q003j 13Nu1tML3Q0005 09DV3HME2+Ro2- 19Ds3HSH2- ",
  "1ALx1tKl3Q 09DN3HMQ3jMR37 1AOP1tMb3Q 09DL3HMK3j 09Dn3HMz3jM+37 09Dt3HN53jN637 09DQ3HRb3n 15E43",
  "HOA1tMX3Q003j 1AOA1tMX3Q 09Dp3HSB3n 0DD23HNX2- 092H2sDS3HRk2- 092J2sDY3HRr2- 092L2sE03HSm2- 09",
  "2N2sE13HSn2- 0A9C3UFi3HNC3X 09DX3HRq2- 09Da3HRv2- 09Db3HRw2- 09Df3HR+2- 09Dy3HSY2- 09Dz3HSZ2- ",
  "09D+3HSa2- 09D-3HSb2- 0DD33HNY2- 00Ke0m8Y3UFh3HAT2k9k3VBB3WS03XIK2vAU3YIC2THJ3ZR70zLg3a 0DBN2C",
  "BO3H 09Dl3HS32- 09DM3HRY2- 0DBa2CBb3H 09DP3HRa2- 0DBt2CBu3H 0DB+2CB-3H 0DC12CC23H 0DC32CC43H 0",
  "9DT3HRl2- 09DU3HRn2- 1B002+ 09DW3HRp2- 09DZ3HRu2- 09Dc3HRx2- 09Dd3HRy2- 09De3HRz2- 099s2CAY3H ",
  "09A22CAb3H 09A72CAp3H 09AE2CAq3H 09AG2CAr3H 09AH2CAs3H 0AFi3H9P2k9Q3YS10z 0A9s2CEA3H 0AA22CED3",
  "H 0AA72CER3H 0AAE2CES3H 0AAG2CET3H 0AAH2CEU3H 1+SG0z 0r9s2CEZ3H 0rA22CEc3H 0rA72CEq3H 0rAE2CEr",
  "3H 0rAG2CEs3H 0rAH2CEt3H 1+SP0z 0EBN2CCc3H 09Dv3HSQ2- 0EBa2CCf3H 09Do3HSA2- 0EBt2CCt3H 0EB+2CC",
  "u3H 0EC12CCv3H 0EC32CCw3H 09Dq3HSD2- 1cSh0z 0q9s2CF03H 0qA22CF33H 0qA72CFH3H 0qAE2CFI3H 0qAG2C",
  "FJ3H 0qAH2CFK3H 1+Sp0z 1S9J3URK3X 0DB23H 0DB33H 0DBM3H 00NP23Kf246p1y6o3THJ3ZKg3aM62dM736 09D5",
  "3HKv3X8p3i 0AFi3HKX3X8n3i 0DBR3H 0rFS3H 0DBZ3H 0DBc3H 0AFT3H 0DBe3H 0DDO3H 0DBf3H 0DBg3H 0DBh3",
  "H 0DBi3H 0DBj3H 0DBk3H 0DBl3H 0DBm3H 0DBn3H 0DBo3H 0DBs3H 0DD73H 09FU3H 0DD93H 0DDA3H 0DDR3H 0",
  "9DB3H 0DC63H 0DC73H 09D53H 09E63H 09E73H 0DCE3H 09E43H 099V3H 099W3H 09AX3H 09AZ3H 09Aa3H 09Ac",
  "3H 09Ad3H 09B83H 09Ae3H 09Af3H 09Ag3H 09Ah3H 09Ai3H 09Aj3H 09Ak3H 09Al3H 09Am3H 09An3H 09Ao3H ",
  "0qFV3H 09At3H 09Au3H 09Av3H 2YMt2d 0EDC3H 0A9V3H 0A9W3H 0AE93H 0AEB3H 0AEC3H 0AEE3H 0AEF3H 0AE",
  "G3H 0AEH3H 0AEI3H 0AEJ3H 0AEK3H 0AEL3H 0AEM3H 0AEN3H 0AEO3H 0AEP3H 0AEQ3H 0AEV3H 0AEW3H 0AEX3H",
  " 0r9V3H 0r9W3H 0rEY3H 0rEa3H 0rEb3H 0rEd3H 0rEe3H 0rEf3H 0rEg3H 0rEh3H 0rEi3H 0rEj3H 0rEk3H 0r",
  "El3H 0rEm3H 0rEn3H 0rEo3H 0rEp3H 0rEu3H 0rEv3H 0rEw3H 1S9K3US83X 0EB33H 0ECb3H 0ECd3H 0ECe3H 0",
  "ECg3H 0AFX3H 0ECh3H 0ECi3H 0ECj3H 0ECk3H 0ECl3H 0ECm3H 0ECn3H 0ECo3H 0ECp3H 0ECq3H 0ECr3H 0ECs",
  "3H 09FY3H 0ECx3H 0ECy3H 0ECz3H 1S9L3USL3X 0AFa3H 1S9M3USU3X 0AFc3H 0EB23H 0q9V3H 0q9W3H 0qE-3H",
  " 0qF13H 0qF23H 0qF43H 0qF53H 0qF63H 0qF73H 0qF83H 0qF93H 0qFA3H 0qFB3H 0qFC3H 0qFD3H 0qFE3H 0q",
  "FF3H 0qFG3H 0qFL3H 0qFM3H 0qFN3H 1S9O3USt3X 0AFg3H 1S9N3USl3X 0AFe3H 00Nh3oRI0zM62dM736 4yMt2d",
  " 2Y003g 4y000z 4z000z 00S60z 00RI0z 00Kj2BJm3XM62dM736 006I1P743p 00SK0z 53Mt2d 00Sk0z 007M3p ",
  "53003g 007I0V 00ST0z 00Ss0z 00Kj2BJ33X 00M62dM736 00Mt2dM736 00Mh3X 009q3q9-3r 009q3q 009o3r 0",
  "0BK3qBW3r 00BK3q 00BI3r 5MKs3s 00RQ3XLr3bMk3cLt3oHJ3ZGI3aMl2dLv36 5JJ73s 5JMM37 5JMd37 5OLs3cL",
  "u2d 5JMx37 5JN037 5JN837 00RQ3XNi3bNj3cLt3oHJ3ZGI3a 00N13cMW3oHJ3ZGI3aN22d 00RQ3XMj3bRV3oMm36 ",
  "00JL3oHJ3ZNw3tH83FH92wGK3aFn3u 5XNj3c002d 5ZFo3u 5YLr3bLv36 5ZFr3u 5ZFt3u 5YNi3b0036 00HC2CJV3",
  "o 00Nn3oHJ3ZGa3a 4-003g 5iN32d 00QZ3o 00JW3oHJ3ZGa3a 00JY3o 00Qd3o 00Qf3o 00Qr3o 00HR3r 00Qh3o",
  " 00Qi3o 00Qs3o 00Qt3o 00HJ3ZGa3a 00O93o 00OC3o 00OD3o 00Om3o 00Or3o 00Qv3o 4+791y003v 00OE3o 0",
  "0OF3o 00OG3o 00Of3o 00Oi3o 00Oj3o 00On3o 00Oo3o 00Os3o 00Ot3o 00PE3o 00PF3o 00PL3o 00PM3o 00Qg",
  "3o 00Qm3o 00Qo3o 00Qp3o 00Qw3o 00Qx3o 00Q+3o 00Q-3o 00R13o 00R23o 00OB3o 00Oh3o 00Ol3o 00Oq3o ",
  "00PD3o 00PK3o 00Qe3o 00Qn3o 00Qq3o 00Qu3o 00Qz3o 00R03o 00NR09RD3wKh3d 00IJ3xIN2vBL3y 00Jy3zJK",
  "3+If30 00IV3xIN2vBr3y 00IM3xIN2v9r3y 6dIk30 6eA63y 00IP3xIN2vKA3y 6dIm30 6eKD3y 00IS3xIN2vKG3y",
  " 6dIo30 6eKJ3y 6e003y 00M40XM53- 00RU3-MD27 6dIi30 00K240IQ2v 00K340IQ2v 59Ki2B 59MZ2B 00Ki2BJ",
  "23X 6pOX0X 6qOy27 00K12+ 00MF2+ 00J93s 00JF41 00JM41 00Rd3- 00JP42 00OR2+Pi0z 00OY3- 00JX42 00",
  "LB3X 00Rs3X 00P42+Pq0z 00P52+Pr0z 00PU2+P-0z 00Jh41 00IU2RIe3+ 00NZ43BG44 00ME2+ 00Pe439m44 00",
  "Bp3r 00O22RRc3+ 00O343Bv44 00Mu36 00Pp43A844 00N32d 00A43r 00Po2RSC3+ 00M736 00QR2RSN3+ 00QT2R",
  "SW3+ 00IX2RIj3+ 00IZ2RIl3+ 00Ib2RIn3+ 00Ko45 00Kp46 00Nb0z 00Ne25 00Np28 00Ky2Y 00Kz2Y 00Pf0z ",
  "00MI47 00MN05 00L145 00L246 00Nx431Y44 00Nz0z 00L33s 00O4436O44 00Ri3w 00OI28 00L82Y 00OK439b4",
  "4 00Pk0z 00L037 00OW431b44 00Oc436T44 00P3439e44 00PR2+ 00LE48 00LF49 00LG48 00LH49 00LR45 00L",
  "S46 00My05 00Pj43CH44 00Ps43CI44 00Px43CL44 00Q543CO44 00LZ45 00La46 00Ld45 00Le46 000k1- 00GS",
  "4AHL4B 00M836 00M92d 00Nm0z 00MA2d 00MB36 00MM37 00MO05 00N-0z 00MT3d 00MV4C 00MY2X 00Pl0z 00M",
  "c47 006Q2C 00OT0z 00Md37 00Mf4C 00Mg2X 00Pu0z 00Mv36 00Mw2d 00Mx37 00N037 00N42d 00N837 000z1-",
  " 000i2M 000j2M 00NS2M 000l2M 00622C 00Kx25 00712L 000m1- 00BU44 00O00z 00BV2C 00O70z 00O80z 00",
  "Gb2C 00OH0z 00OJ3C 00ON0z 006P2M 007L2C 001Z44 00OU0z 00C02C 00OV0z 00C52C 001a2C 00CB44 006R4",
  "4 00Oa0z 00Ob0z 006S2C 00Gd2C 00Oe0z 00Og0z 00Ok0z 00Op0z 00Ou0z 00Ov0z 00Ow0z 00Ge2C 009c44 0",
  "0P00z 00P10z 009d2C 00HE2C 00P60z 00CC2C 001c2C 001d2C 001e44 00P70z 006U2C 006V2C 006W44 00Gf",
  "2C 00P80z 00Gg2C 00P90z 00PA0z 00PB0z 00Gh2C 00PC0z 00PG0z 00PH0z 00PI0z 00Gi2C 00PJ0z 00PN0z ",
  "00PO0z 00PP0z 00Gj2C 00Gk2C 00Gl2C 00PS0z 009f2C 009g2C 009h44 001f2C 006X2C 00Gm2C 00Gn2C 00G",
  "o2C 00Gp2C 00Gq2C 00PV0z 00PW0z 00PX0z 00Gr2C 00Gs2C 00Gt2C 00Gu2C 00PY0z 00PZ0z 00Pa0z 00Gv2C",
  " 00Gw2C 00Gx2C 009i2C 006Y2C 00Gy2C 00Gz2C 00G+2C 00G-2C 00H02C 00H12C 009z44 009+2C 00CJ44 00",
  "AF2C 00AI2C 00CK2C 00AM44 00CM44 00CN2C 00AN2C 00CP2C 00CQ2C 00CR44 00CS2C 00CT2C 00CU44 00CV2",
  "C 00CW2C 000x2M 000y2M 000+2M 00101- 00Pm0z 00Pq0z 00Pt0z 00Pv0z 00Pw0z 00Py0z 00Pz0z 00P+0z 0",
  "0Q00z 00Q10z 00Q20z 00Q30z 00Q40z 00Q60z 00Q70z 00Q80z 00Q90z 00QA0z 00QB0z 00QC0z 00QD0z 00QE",
  "0z 00QF0z 00QG0z 00QH0z 00QI0z 00QJ0z 00QK0z 00QL0z 00QM0z 00QN0z 00QO0z 00QP0z"]

end Script.Automaton

end EmbedScaffold
