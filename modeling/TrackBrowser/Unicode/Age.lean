/-
Module: TrackBrowser.Unicode.Age
Purpose: The version of Unicode in which each character was added.
-/
import TrackBrowser.Unicode.RunTable

/-!
Versions are known by codes of one letter, in the order in which they came out.  A property
expression asks whether a character was there in some version, so `Age.upTo?` gives the codes of
this version and of all before it.
-/

namespace TrackBrowser.Unicode.Age

/-- The codes of the versions, from the first to the last, with the names of each. -/
def versions : List (String × List String) :=
  [("A", ["1.1", "v11"]), ("B", ["2.0", "v20"]), ("C", ["2.1", "v21"]), ("D", ["3.0", "v30"]),
   ("E", ["3.1", "v31"]), ("F", ["3.2", "v32"]), ("G", ["4.0", "v40"]), ("H", ["4.1", "v41"]),
   ("I", ["5.0", "v50"]), ("J", ["5.1", "v51"]), ("K", ["5.2", "v52"]), ("L", ["6.0", "v60"]),
   ("M", ["6.1", "v61"]), ("N", ["6.2", "v62"]), ("O", ["6.3", "v63"]), ("P", ["7.0", "v70"]),
   ("Q", ["8.0", "v80"]), ("R", ["9.0", "v90"]), ("S", ["10.0", "v100"]), ("T", ["11.0", "v110"]),
   ("U", ["12.0", "v120"]), ("V", ["12.1", "v121"]), ("W", ["13.0", "v130"]),
   ("X", ["14.0", "v140"]), ("Y", ["15.0", "v150"]), ("Z", ["15.1", "v151"]),
   ("z", ["16.0", "v160"])]

/-- The runs of characters that were added in the same version, in the order of code points.  A
hyphen stands for characters that have not been added yet. -/
def table : RunTable String :=
  .ofLines 1
    ["1f6A4D1eA8D1F1G12D3GbHeI59A5D2G2fA1DaA5D11G46A9D1F8G5H3G2A1DdF4J2A2J2-1A3I1A1P4-7A1-1A1-",
    "14A1-2cA1J7A1D2F1A1D1A1D1A1D1A1D12A2E1F5G4H1DcA1D42A1DcA1D29A1J2D2F4D35A2F2A2F2A2F1I1cA2D",
    "8A2H2A6I10F4I10J2K2L8P1-26A2-7A1T27A1T1A1D2-2P1M1-11B1HdBaA1I9A1B3H8-1bA4-1T5Ab-4G1M1P5J1H",
    "1A9G5J1A1O1X1H1A1L1aA5J13A3D3G6H1LeA2F48A2D5A1DfA1D1eA2GaA5D1GeD1-1eD3G1bD2-3G1eH12J31D1F",
    "e-3bI2-3T2eK2-fK1-1cL2-1L1-bS5-1fX1-2X5-1z8X1M1PbM6P2Q1X8RaWbX1TfR1Q1bM1P1K3A1G35A2L12A1K",
    "1L5A1K2L19A2J5L1P2K2I1H2I1P3A1-8A2-2A2-16A1-7A1-1A3-4A2-1A1G7A2-2A2-3A1H8-1A4-2A1-5A2-15A",
    "1K2S1T2-1G1A1G1-6A4-2A2-16A1-7A1-2A1-2A1-2A2-1A1-5A4-2A2-3A3-1J7-4A1-1A7-fA1J1Ta-3A1-7A1G",
    "1A1-3A1-16A1-7A1-2A1-5A2-aA1-3A1-3A2-1Af-1A3G2-aA1M1G7-1Q6S1-3A1-8A2-2A2-16A1-7A1-2A1-1G4A",
    "2-8A1J2-2A2-3A7-1W2A4-2A1-3A2J2-bA1G6La-2A1-6A3-3A1-4A3-2A1-1A1-2A3-2A3-3A3-8A1H3A4-5A3-3A",
    "1-4A2-1J6-1Ae-1HcA8G5-1P3A1T8A1-3A1-17A1-aA1P5A2-1X1J7A1-3A1-4A7-2A1-2J1Q2-1X2-2A2J2-aA7-",
    "1U8J1R1P2A1T8A1-3A1-17A1-aA1-5A2-2G7A1-3A1-4A7-2A6-1X1A1-2A2I2-aA1-2I1Yc-1S1P2A1W8A1-3A1-",
    "17A1L10A1L2S1J6A1J1-3A1-4A1L1R4-3R1A7R1Q2A2J2-aA6J3R7J1-1W2D1-12D3-18D1-9D1-1D2-7D3-1D4-6D",
    "1-1D1-8D6-aP2-3Dc-3aA4-1dA25-2A1-1A1-1U2A1U1A1-1U1A6U4A1U7A1U3A1-1A1-1A2U2A1UdA1U3A2-5A1-",
    "1A1-6A1Y1-aA2-2A2M20-48B1-21B1D2J4-1bB4L6B1D1B1-15B3D7B1D1B3D1-fD1-1J1D2H3J4K2L25-22D1J5D",
    "1J2D1J7D3J4D6J1aD40J4K2J26A1-1M5-1M2-27A2F2H1A1H3M5aA5K44A5K52A6K7D1H3fD1H1D1-4D2-7D1-1D1-",
    "4D2-27D1H1D1-4D2-1fD1H1D1-4D2-7D1-1D1-4D2-7D1H7D1-17D1H1fD1H1D1-4D2-7D1H27D1H13D2-2L2H1cD",
    "3-1aH6-55D1Q2-6Q2-1K276D9K1dD3-51D8P7-dF1X7F1X9-1X17F9-14Fc-dF1-3F1-2Fc-5dD1G2-aD6-aG6-fD",
    "1XaD6-58D1T7-2aD1J5-46Ka-1dG2P1-cG4-cG4-1G3-2aG2-5Gb-2aH2K4-1aH6-aH1K3-2H20G1cH2-2H3fK1-",
    "1dK2-bK6-aK6-eK2-fP2WeX31-4cI1X1-2z2dI2X1z2bJ3McJ6M34L8-4L38J3-fJ3-33J9R2z5-2bT2-3T8M8-23K",
    "4M1S2P1U5-6cG58H7I1cJfP4S1X1R1L1K2I9bA1B4J5aA6J16A2-6A2-26A2-6A2-8A1-1A1-1A1-1A1-1fA2-35A",
    "1-fA1-eA2-6A1-13A2-3A1-9A1-2fA1D17A1F6D5F2G2H1F7H5F1J1-4O7A1F2-1bA1-5H8L3-bA1B1C3D2F4H3K1L",
    "1N3P1Q1S1Xf-12A2D7F1H4I1Jf-39A2D1G1HfF1H2I1J3K30A1D1I4J1K2Q4-5bA9DcFf2AeF1A1D79A1D1F1eD34F",
    "2GbHcI1KbL7P4R1S25A2D3z16-bA15-8bA14F1G96AaF50A8D8F14A2G2F1H1D56A2DcF2HaF8GbH1J2K2G10H1IaJ",
    "3K4JaK1L13K1L1K4L18K1P4A1L4A2L1cA1L23A1L1A1L4A3L1A1K7A2L7AeF1fA3L18A1LeA1L7H4I1M1J1M2L1cF",
    "4J10F100D200FeG6H7I5J4I29J3P5J5K1aP2-20P1-1W22P3TcP1U8P1S19T4QfT1U2fH1X2fH1XdI3J1K3J4I6J2K",
    "6bH7K2M5-2dH1-1M5-1M2-36H2M7-1H1Le-1L17H9-7H1-7H1-7H1-7H1-7H1-7H1-7H1-7H1-20J18H4J2H13J1K",
    "aM7P2R5S5T1U3WbX22-1aD1-59Dc-d6D1a-cD4Z38A3D3F1D1A1-54A2F2-6A2F5eA1F5-28A1J1S1T1-5eA1-10A",
    "18D3L5W10H14J2z9-1Z10F1dA2G1-24AcK1GfF1cA2G1H32AfFcA4G2fA1V77A4G63A2G1fA1G19b6DaW40G51a6A",
    "16H8J8K1M9Q15S5TdW3X48dD3-12D2F10D1FcD1F3D1F1D9-30K12cJ14-20J2L12J8M1cJ6P1Q1M58K8-17H4I5J",
    "2I6bJ2L1Q2L2McPaL1M3P1R1T2P6Q2T6U2X5U4W3z2-2X1-1X1-5X3z15-3X2W1P2M1L5J2cH1W3-aK6-38I8-45J",
    "1R8-cJ6-1cK2Q2T54Jb-1J1dK3-4eK1-bK4-2K1fP1-37J9-eJ2-aJ2-4J1cK4P43K18-5K17Ma-6L2-6L2-6L9-7L",
    "1-7L1-30P4Q2P2U4W4-50Q2eK2-aK6-2ba4Bc-17K4-31K4-800B1a2eA2M3bF3K2-6aH26-7Ac-5A5-1D19A1-5A",
    "1-1A1-2A1-2A1-6cA10L1X10-16dA10X40A2-36A7-1X20EcA1F1G2X10FaH6-4A3J7P2Q15A2F2GaA1-13A1-4A4-",
    "3A1F1A1-87A2-1A1-5eA2F5eA3-6A2-6A2-6A2-3A3-7A1-7Aa-3D1C3AcG1-1aG1-13G1-2G1-fG2-eG22-7bG5-",
    "3G4-2dG3-9G4bH2P2R1-cJ1W3-1P2f-2eJ82-1dJ3-31Jf-1cP4-1fE1P4E9-3S1bE5-2bP5-1eG1-1G24H4-eH2a-",
    "26E2G26E50G2-aG6-24R4-24R4-28P8-34Pb-1PbX1-fX1-7X1-2X1-bX1-fX1-7X1-2X3-34zc-137P9-16Pa-8P",
    "18-6X1-2aX1-9X45-6G2-1G1-2cG1-2G3-1G2-1G16K1-9K3fP8-9P30-13Q1-2Q5-5Q1aI2K3-1I1aJ5-1J40-38M",
    "4-2Q2M10Q2-2eQ4H1-2H5-8H1-3H1-1bH2T2-3H4-9H1T7-9H7-20K20P20-27P4-cP9-36K3-1dK2-1bK5-8K12P",
    "7-4Pc-7P50-49K37-33Qd-33Q7-6Q28T8-aT6-26z3-1dz8-2zd0-1fK1-2aW1-3W2-2W10-3z37-1z3Y28T8-2aT",
    "16-1aX26-1cW14-17U9-4eL4-1eL6X9-1P42K1Xa-1T2-19M7-aM6-35M1-eM3T1W8-27P9-49M4Q1P2WaM1P5Q1-",
    "14Pb-12P1-2bP1R3Y3e-7Q1-1Q1-4Q1-fQ1-bQ6-3bP5-aP6-1Q3P1-8P2-2P2-16P1-7P1-2P1-5P1-1T9P2-2P2-",
    "3P2-1Q6-1P5-7P2-7P3-5Pb-az1-1z2-1z1-26z1-az1-1z2-1z1-4z1-az1-2z8-2z1d-5aR1W1R1-1R1T1U2W1e-",
    "48P8-aPa6-36P2-12P14Q22-45Pb-aP6-dR13-38M1U1X6-aM6-14z1c-1aQ1T2-fQ4-10Q7Xb9-3cT64-53Pc-1P",
    "7W2-1W2-8W1-2W1-1eW1-2W2-cW9-aW46-8U2-2eU2-bU1b-48S8-34S2U17S1T5Sd-10X39P7-aYb6-22ze-az6-",
    "9R1-2dR1-eRa-1dR3-20R2-16R1-eR49-7S1-2S1-2cS3-1S1-2S1-9S8-aS6-6T1-2T1-25T1-2T1-6T7-aT136-",
    "19T7-11Y1-29Y3-1cY1z55-1Wf-32Ud-1U36fI2aP1Q66-63IcP1-4I1Pb-c4Qa4c-63Xd-42fK1Y9U1dYa-f9bz5-",
    "247Q1ab9-3az6c6-239L7-1fP1-aP4-2P4fX1-aX6-1eP2-6Pa-46Pa-aP1-7P1-15P5-13P1b0-3azc6-5bT65-",
    "45M6U4-1U2fM9U7-11M40-1R1S2U1Wb-2We-17edR5T6U8-2f3R1e3W29-1z9W22e7-4X1-7X1-2X1-2L11dS4Xf-",
    "1Y1d-3U2-1Ye-4U8-18cS904-6bP5-dP3-9P7-aP2-8Pf5c-faz6-1b4z4c-2eX2-17X9-74X3c-f6Ea-27E2-1J",
    "b4EbQ2X15-46H7a-14Yc-14Tc-57G9-12I7T87-55E1-47E1-2E2-1E2-2E2-4E1-cE1-1E1-4E1G2E1-41E1-4E2-",
    "8E1-7E1-1cE1-4E1-5E1-1E3-7E1-152E2H2-122E2I2-32E28cQf-5Q1-fQ450-1fX6-6Yd5-7R1-11R2-7R1-2R",
    "1-5R5-3eY21-1Y70-2dU3-eU2-aU4-2U140-1fX11-3aU5-1U1d0-2aYd6-2bz4-1z1e0-7X1-4X1-2X1-fX1-c5P",
    "2-10P29-4bR1U4-aR4-2R311-44T4c-3dUc2-4M1-1bM1-2M1-1M2-1M1-aM1-4M1-1M1-1M6-1M4-1M1-1M1-1M1-",
    "3M1-2M1-1M2-1M1-1M1-1M1-1M1-1M1-2M1-1M2-4M1-7M1-4M1-4M1-1M1-aM1-11M5-3M1-5M1-11M34-2M10e-",
    "2cJ4-64Jc-fL2-eL1P1-fL1-fL16Pa-bK2P3W1fK1T1L1KbL1K1L1K2L1K3L1K3L5K8L1K7L1KaL2M1U3W9L1K1L2K",
    "2L1KaL4K2L1KaL12R1W38-1aL1K2Ld-22K9L1R4-9K7-2Le-6S9a-21LcP3Q6L1P46L1P2Q14LcP25L1P5L4P5QcP",
    "11L7P8Q3fL1P1L1Pb6L1P4L2P1Q3eL2P4M7P5Q18L12P1R29P1R56P5L1M10L1M3L1M1L1M1L1M1L1M3L1M6L2M4L",
    "1M1L2M4L1McL2P2QbL30P46LaP1Q2R2S1U2W4-1Y3XdP3-4P3R2S1T1U2W3-74L3Y4-5Y55P4T1Y6-cU4-1Xf-cP4-",
    "38P8-aP6-28P8-1eP2-2Waz4-2z3e-cS1W3U9Q6R1S8R8S1R2ScR1UcR1S3TfRdS5T1U1W4T2W1X1T1U4T5QdR6SbT",
    "2W6U3W2UaT6U1Q2T8U1W1X3U17S19T54Uc-eT2-4U1W3Y3U2X3-3U4W2Y1z5-1z6U13W4X3Y7W4X3Y1z1Y3W3X1z7-",
    "2Y7W3X2Y1z2-1z8X1Y1z6-7X2Y7-93W1-37W25zaW404-2Ba6d7E7W2X20-1035K4X1Y6-deL2-1682Qe-1d31Sf-",
    "26eZ9a2-21eE5e0-2B134bW5-1060Ydc4e-2Bfffe-2Bfffe-2Bfffe-2Bfffe-2Bfffe-2Bfffe-2Bfffe-2B",
    "fffe-2Bfffe-2Bfffe-2B1-1E1e-60E80-f0Gfe0e-20002B"]

/-- The version in which a character was added. -/
def of (c : Char) : String :=
  (table.lookup? c.toNat).getD "-"

/-- The versions up to the one with a given name. -/
def upTo? (name : String) : Option (List String) :=
  (versions.findIdx? fun version => version.2.contains name).map fun last =>
    (versions.take (last + 1)).map (·.1)

end TrackBrowser.Unicode.Age
