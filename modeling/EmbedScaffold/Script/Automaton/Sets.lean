/-!
# Sets of symbols and lists of reductions

What the rows of the automaton share.  Each number takes two digits to the base 64, and blanks part
the entries; an entry may run over several lines.
-/

namespace EmbedScaffold

namespace Script.Automaton

/-- Sets of symbols: the numbers of their members.  For rules they count from the first rule. -/
def symbolSets : List String := [
  "00 04080M0P0i0k0w1D1E1F1G1H1I1J1K1O1P1Q1R1S1T1U1V1W1X2123 0z0+0-101112131415161718191A1B 00050",
  "90Z 090N0Y0f 21 05090Z 08090N0f 0M21 09 0G 08090f 0P21 08 090N 080M 0P0Y 0G0P 0P 08090M0N0P0Y0",
  "f0i0k0w1D1E1F1G1H1I1J1K1O1P1Q1R1S1T1U1V1W1X23 0N0Y0f 08090M0N0f 0Y 0001030507090A0C0D0E0F0H0I0",
  "J0K0L0M0O0Q0R0S0T0U0V0W0X0Z0c0e0h0n0o0r0t0u0x0y1L1M1N1Y1Z1a1b1c1d1e1j1o1p1s1t1u1v1w1x1y1z1-20 ",
  "04080P0i0k0w1D1E1F1G1H1I1J1K1O1P1Q1R1S1T1U1V1W1X23 0d 00010304050708090A0C0D0E0F0G0H0I0J0K0L0M",
  "0O0P0Q0R0S0T0U0V0W0X0Z0c0e0h0i0k0n0o0r0t0u0w0x0y1D1E1F1G1H1I1J1K1L1M1N1O1P1Q1R1S1T1U1V1W1X1Y1Z",
  "1a1b1c1d1e1j1o1p1s1t1u1v1w1x1y1z1-202123 04080G0P0i0k0w1D1E1F1G1H1I1J1K1O1P1Q1R1S1T1U1V1W1X23 ",
  "080f 080M21 080N0f 0L 0e0h1L1M1N1d1e1j 04 0L0e 0e 04090N0Y0f 0L21 0a0b 040G0P0i0k0w1D1E1F1G1H1",
  "I1J1K1O1P1Q1R1S1T1U1V1W1X23 040G0P0i0k0w1D1E1F1G1H1I1J1K1O1P1Q1R1S1T1U1V1W1X2123 040L 00010305",
  "07090A0C0D0E0F0H0I0J0K0L0M0N0O0Q0R0S0T0U0V0W0X0Z0c0e0h0n0o0r0t0u0x0y1L1M1N1Y1Z1a1b1c1d1e1j1o1p",
  "1s1t1u1v1w1x1y1z1-20 0001030507090A0C0D0E0F0I0J0K0L0M0O0Q0R0S0T0U0V0W0X0Z0c0e0h0n0o0r0t0u0x0y1",
  "L1M1N1Y1Z1a1b1c1d1e1j1o1p1s1t1u1v1w1x1y1z1-20 0001030507090A0C0D0E0F0H0I0J0K0L0O0Q0R0S0T0U0V0W",
  "0X0Z0c0e0h0n0o0r0t0u0x0y1L1M1N1Y1Z1a1b1c1d1e1j1o1p1s1t1u1v1w1x1y1z1-20 0001030507090A0C0D0E0F0",
  "H0I0J0K0L0M0O0Q0R0S0T0U0V0W0X0Z0b0c0e0h0n0o0r0t0u0x0y1L1M1N1Y1Z1a1b1c1d1e1j1o1p1s1t1u1v1w1x1y1",
  "z1-20 0001030507090A0C0D0E0F0H0I0J0K0L0M0O0Q0R0S0T0U0V0W0X0Z0c0e0h0n0o0r0t0u0x0y1L1M1N1Y1Z1a1b",
  "1c1d1e1j1o1p1s1t1u1v1w1x1y1z1-2021 080a0b 07 040708090G0L0M0N0P0Y0d0e0f0h0i0k0w0z0+0-101112131",
  "415161718191A1B1D1E1F1G1H1I1J1K1L1M1N1O1P1Q1R1S1T1U1V1W1X1d1e1j23 070G0L 0103070A0C0D0E0F0I0J0",
  "K0L0M0O0Q0R0S0T0U0V0W0X0c0e0h0n0o0r0t0u0x0y1L1M1N1Y1Z1a1b1c1d1e1j1o1p1s1t1u1v1w1x1y1z1-20 0005",
  "090H0Z21 070N0Y0f 040708090G0M0N0P0Y0f0h0i1D1E1F1G1H1I1J1K1L1M1N1O1P1Q1R1S1T1U1V1W1X1d1e23 0e0",
  "k0w 040708090G0L0M0N0P0Y0e0f0h0i0k0w1D1E1F1G1H1I1J1K1L1M1N1O1P1Q1R1S1T1U1V1W1X1d1e1j23 0407080",
  "90G0L0M0N0P0Y0f0h0i1D1E1F1G1H1I1J1K1L1M1N1O1P1Q1R1S1T1U1V1W1X1d1e23 040708090G0M0N0P0Y0f0h0i1D",
  "1E1F1G1H1I1J1K1L1M1N1O1P1Q1R1S1T1U1V1W1X1j23 040708090G0M0N0P0Y0f0h0i1D1E1F1G1H1I1J1K1L1M1N1O1",
  "P1Q1R1S1T1U1V1W1X1d1e1j23 04070G0L0P0Y0e0h0i0k0w1D1E1F1G1H1I1J1K1L1M1N1O1P1Q1R1S1T1U1V1W1X1d1e",
  "1j23 1j 0L0e0k0w 040708090L0M0N0P0Y0e0f0h0i0k0w1D1E1F1G1H1I1J1K1L1M1N1O1P1Q1R1S1T1U1V1W1X1d1e1",
  "j23 070G 08090M0N0Y0f1j 08090M0N0P0Y0f0h0i1D1E1I1J1K1Q1R1S1T1U1V1W1X1j23 041F1G1H1L1M1N1O 0809",
  "0M0N0Y0f1D1E1W1j23 1D 1F1G1H 1I1J1K 1I 1K 1L1M 1R1S1T1U 1E 0G21 070N0f 0H0Q 08090M0N0Y0f 090G2",
  "1 07090G0N0Y0f 0G0M21 0H0M0Q 090P21 090G 080G0M21 0921 0f 0809 0Y1j 071j 070P 0G1j 0L0Y 0L0M0d",
  " 0103040E0O0e0n0o0r0t1o1p1y1z1+1-20 0103040E0O0e0n0o0r0t1o1p1z1+1-20 01030408090E0M0O0e0n0o0t1",
  "o1p1y1z1+1-20 0103040E0L0O0e0k0n0o0r0t1o1p1y1z1+1-20 010304090E0M0O0e0n0o0t1o1p1y1z1+1-20 0M 0",
  "103040E0M0O0e0n0o0t1o1p1y1z1+1-20 0L0w 0l 0i0m 08090G0N0P0d0f 01070i0j0m 090M0N0Y0f 080G0M0P0d",
  "21 090N0f 01070d0i0j0m 01070i0j0k0m 0608090B0L0Y 070g0h0l25 0C0L0M0d21 0N 0n 0o 1h1j1k22 0G0N0",
  "P0d 0L0M0d21 0B0M21 06 0C0M21 080N 0Q 0B 070v 01 02 03 0A 0C 0D 0E 0F 0I 0J 0K 0O 0R 0S 0T 0U ",
  "0V 0W 0X 0c 0h 0r 0t 0u 0x 0y 1L1M1Y1Z1a1b1c 1N 1d1e 1o1s1t1u1v1w 1p 1x 1y 1z1-20 1C 1o 1z 1+ ",
  "1-20 030E1z1-20 0v 1Y1Z1a1b1c 0d0v 031z1-20 0k 05 0E0F 030E0O0t1z 1o1p 01030E0O1z 0t1-20 030E0",
  "O0t1z1-20 0a 0b 0H 0w 1n 041N1O 0P0h0i1Q1V1X 1J 1P 1W 23 1D1E1W23 01030E0O 01030E0O0t1z1-20 0Y",
  "0v 010E0O 1- 20 04070Y0d0v 0g25 010j 0i 0m 0105 1h22 1k 0Z 0j 0s 1f1h 1g1h 0g0p 0g0q 1m 1r 1q ",
  "1l 0106080G0K0M0N0O0P0R0S0T0U0V0W0X0Y0Z0a0b 0F1u 0H0I171A1C 0h1J1K 0l0t101I1M1O1S1T1U1V 0m0q16",
  "191B1D1G1X1Y1a1c 0n0r1Q 1H 1e 1v 0p1m1p 1R1n1o 1X 1q1r 000106080F0G0H0I0K0M0N0O0P0R0S0T0U0V0W0",
  "X0Y0Z0a0b171A1C1W1u 1+1- 1u 1J1K 1R 0H0I0a 2021 1R20 1R1W 1X1q1r 0g 1Y 1d 26 1i 2A 0203 0B0C 0",
  "t0u1022 0- 0u13 0z 051X 0t0u1014 1Z29 0d0e1z 18 1h 27 28 2B 24 25 1f 1g 1w"]

/-- Lists of reductions: for each one its rule, how many nodes it takes and its precedence, counted
from one; a reduction to the end of the script accepts it. -/
def reductions : List String := [
  "260001 2q0101 3T0101 3+0201 2k0201 2k0301 2j0301 2j0401 2q01013r0100 3r0100 3s0201 260101 2602",
  "01 2q01013s0201 2r0101 2Q0201 2s0201 2t0201 3n0201 3n0301 2Q0301 2Q0401 3D0301 3C0301 3D0401 3",
  "C0401 3G0401 3F0401 3G0501 3F0501 3I0501 3H0501 3D0501 3C0501 3I0601 3H0601 460101470101 47010",
  "1 2P0101 460101 2q01013w0101 2Z0201 2Z0301 2g0101 2S0301 2Y0401 2l0201 2l0501 2n0301 2L0101 2C",
  "0101 270201 2b0201 2c0201 2d0201 2e0201 2M0201 270301 2h0300 2E0301 2a0301 2N0301 2O0301 2T030",
  "1 2V0301 2X0301 2b0301 2c0301 2e0301 2f0301 270401 2E0401 2N0401 2O0401 2S0401 2i0201 2V0401 2",
  "m0201 2Z0401 2E0501 2R0201 2i0301 2Y0501 270501 2U0601 3G0601 3D0601 2U0701 3I0701 2U0801 2U09",
  "01 3P0301 3Q0401 3Q0501 2W0501 2W0601 2W0701 3N0201 2p0101 3O0201 3a0201 3b0201 2s02012t0201 2",
  "w0201 2w02012x0201 2x0201 3C0201 3e0201 3M0201 2z0201 3J0301 2s0301 2s03012t0301 2t0301 3i0301",
  " 2w0301 360301 3F0301 3N0302 3g0301 3e0301 3j0201 3M0301 350201 2z0301 2s0401 2w0401 360401 3J",
  "0401 3H0401 3g0401 3j0301 350301 3j0401 3d0201 3d0301 2r0201 3S0301 2r0301 3Z0301 3U0301 3S040",
  "1 3Y0501 4C0201 3w0101 3X0201 2v03013S0301 2v0301 2w03013x0301 3x0301 2u0301 3V0201 460201 3u0",
  "301 440101450101 3E0201 440101 4G0201 450101 440201450201 440201 3k0201 3-0201 3t0301 3l0301 3",
  "t0401 3t0501 3t0601 3t0701 4G0101 3q0201 3q0301 3-0101 3m0201 2D0101 480201 490201 2x0301 3901",
  "01 2t0401 2x0401 3c0201 3o0101 4F0201 330301 320301 3o0201 430201 3o0301 300200 300300 490101 ",
  "2+0201 300400 2+0301 2P0201 390301 3A0201 3A0301 4D0201 4E0201 450201 420201 3f0301 4A0201 4B0",
  "201 290201 2A0101 2B0101 2J0101 470201 2G0201 290301 3v0301 4H0201 290401 400201 410201 290501",
  " 2F0101 3p0201 3p0301 2K0201 3p0401 2A0301 2J0301 3p0501 3o0401 000000 2I0201 280301 2H0301 2I",
  "0301 2F0301 2I0401 2I0501"]

end Script.Automaton

end EmbedScaffold
