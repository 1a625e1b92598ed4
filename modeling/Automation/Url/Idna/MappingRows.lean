/-!
What the standard for international domain names does with each character: ranges that stay, ranges
that vanish, runs of characters that move by the same distance, and characters with a mapping of
their own. All numbers are hexadecimal but the stride of a run.
-/
namespace Automation.Url.Idna

/-- Ranges `first-last`. -/
def validRows : String :=
  "0-40 5b-7f a1-a7 a9 ab-ac ae b0-b1 b6-b7 bb bf d7 df-ff 101 103 105 107 109 10b 10d 10f 111
   113 115 117 119 11b 11d 11f 121 123 125 127 129 12b 12d 12f 131 135 137-138 13a 13c 13e 142
   144 146 148 14b 14d 14f 151 153 155 157 159 15b 15d 15f 161 163 165 167 169 16b 16d 16f 171
   173 175 177 17a 17c 17e 180 183 185 188 18c-18d 192 195 199-19b 19e 1a1 1a3 1a5 1a8 1aa-1ab
   1ad 1b0 1b4 1b6 1b9-1bb 1bd-1c3 1ce 1d0 1d2 1d4 1d6 1d8 1da 1dc-1dd 1df 1e1 1e3 1e5 1e7 1e9
   1eb 1ed 1ef-1f0 1f5 1f9 1fb 1fd 1ff 201 203 205 207 209 20b 20d 20f 211 213 215 217 219 21b
   21d 21f 221 223 225 227 229 22b 22d 22f 231 233-239 23c 23f-240 242 247 249 24b 24d 24f-2af
   2b9-2d7 2de-2df 2e5-33f 342 346-34e 350-36f 371 373 375 377 37b-37d 390 3ac-3ce 3d7 3d9 3db
   3dd 3df 3e1 3e3 3e5 3e7 3e9 3eb 3ed 3ef 3f3 3f6 3f8 3fb-3fc 430-45f 461 463 465 467 469 46b
   46d 46f 471 473 475 477 479 47b 47d 47f 481-489 48b 48d 48f 491 493 495 497 499 49b 49d 49f
   4a1 4a3 4a5 4a7 4a9 4ab 4ad 4af 4b1 4b3 4b5 4b7 4b9 4bb 4bd 4bf 4c2 4c4 4c6 4c8 4ca 4cc
   4ce-4cf 4d1 4d3 4d5 4d7 4d9 4db 4dd 4df 4e1 4e3 4e5 4e7 4e9 4eb 4ed 4ef 4f1 4f3 4f5 4f7 4f9
   4fb 4fd 4ff 501 503 505 507 509 50b 50d 50f 511 513 515 517 519 51b 51d 51f 521 523 525 527
   529 52b 52d 52f 559-586 588-58a 58d-58f 591-5c7 5d0-5ea 5ef-5f4 606-61b 61d-674 679-6dc
   6de-70d 710-74a 74d-7b1 7c0-7fa 7fd-82d 830-83e 840-85b 85e 860-86a 870-88f 897-8e1 8e3-957
   960-983 985-98c 98f-990 993-9a8 9aa-9b0 9b2 9b6-9b9 9bc-9c4 9c7-9c8 9cb-9ce 9d7 9e0-9e3
   9e6-9fe a01-a03 a05-a0a a0f-a10 a13-a28 a2a-a30 a32 a35 a38-a39 a3c a3e-a42 a47-a48 a4b-a4d
   a51 a5c a66-a76 a81-a83 a85-a8d a8f-a91 a93-aa8 aaa-ab0 ab2-ab3 ab5-ab9 abc-ac5 ac7-ac9
   acb-acd ad0 ae0-ae3 ae6-af1 af9-aff b01-b03 b05-b0c b0f-b10 b13-b28 b2a-b30 b32-b33 b35-b39
   b3c-b44 b47-b48 b4b-b4d b55-b57 b5f-b63 b66-b77 b82-b83 b85-b8a b8e-b90 b92-b95 b99-b9a b9c
   b9e-b9f ba3-ba4 ba8-baa bae-bb9 bbe-bc2 bc6-bc8 bca-bcd bd0 bd7 be6-bfa c00-c0c c0e-c10
   c12-c28 c2a-c39 c3c-c44 c46-c48 c4a-c4d c55-c56 c58-c5a c5c-c5d c60-c63 c66-c6f c77-c8c
   c8e-c90 c92-ca8 caa-cb3 cb5-cb9 cbc-cc4 cc6-cc8 cca-ccd cd5-cd6 cdc-cde ce0-ce3 ce6-cef
   cf1-cf3 d00-d0c d0e-d10 d12-d44 d46-d48 d4a-d4f d54-d63 d66-d7f d81-d83 d85-d96 d9a-db1
   db3-dbb dbd dc0-dc6 dca dcf-dd4 dd6 dd8-ddf de6-def df2-df4 e01-e32 e34-e3a e3f-e5b e81-e82
   e84 e86-e8a e8c-ea3 ea5 ea7-eb2 eb4-ebd ec0-ec4 ec6 ec8-ece ed0-ed9 ede-edf f00-f0b f0d-f42
   f44-f47 f49-f4c f4e-f51 f53-f56 f58-f5b f5d-f68 f6a-f6c f71-f72 f74 f7a-f80 f82-f92 f94-f97
   f99-f9c f9e-fa1 fa3-fa6 fa8-fab fad-fb8 fba-fbc fbe-fcc fce-fda 1000-109f 10d0-10fb
   10fd-115e 1161-1248 124a-124d 1250-1256 1258 125a-125d 1260-1288 128a-128d 1290-12b0
   12b2-12b5 12b8-12be 12c0 12c2-12c5 12c8-12d6 12d8-1310 1312-1315 1318-135a 135d-137c
   1380-1399 13a0-13f5 1400-167f 1681-169c 16a0-16f8 1700-1715 171f-1736 1740-1753 1760-176c
   176e-1770 1772-1773 1780-17b3 17b6-17dd 17e0-17e9 17f0-17f9 1800-180a 1810-1819 1820-1878
   1880-18aa 18b0-18f5 1900-191e 1920-192b 1930-193b 1940 1944-196d 1970-1974 1980-19ab
   19b0-19c9 19d0-19da 19de-1a1b 1a1e-1a5e 1a60-1a7c 1a7f-1a89 1a90-1a99 1aa0-1aad 1ab0-1add
   1ae0-1aeb 1b00-1b4c 1b4e-1bf3 1bfc-1c37 1c3b-1c49 1c4d-1c7f 1c8a 1cc0-1cc7 1cd0-1cfa
   1d00-1d2b 1d2f 1d3b 1d4e 1d6b-1d77 1d79-1d9a 1dc0-1dff 1e01 1e03 1e05 1e07 1e09 1e0b 1e0d
   1e0f 1e11 1e13 1e15 1e17 1e19 1e1b 1e1d 1e1f 1e21 1e23 1e25 1e27 1e29 1e2b 1e2d 1e2f 1e31
   1e33 1e35 1e37 1e39 1e3b 1e3d 1e3f 1e41 1e43 1e45 1e47 1e49 1e4b 1e4d 1e4f 1e51 1e53 1e55
   1e57 1e59 1e5b 1e5d 1e5f 1e61 1e63 1e65 1e67 1e69 1e6b 1e6d 1e6f 1e71 1e73 1e75 1e77 1e79
   1e7b 1e7d 1e7f 1e81 1e83 1e85 1e87 1e89 1e8b 1e8d 1e8f 1e91 1e93 1e95-1e99 1e9c-1e9d 1e9f
   1ea1 1ea3 1ea5 1ea7 1ea9 1eab 1ead 1eaf 1eb1 1eb3 1eb5 1eb7 1eb9 1ebb 1ebd 1ebf 1ec1 1ec3
   1ec5 1ec7 1ec9 1ecb 1ecd 1ecf 1ed1 1ed3 1ed5 1ed7 1ed9 1edb 1edd 1edf 1ee1 1ee3 1ee5 1ee7
   1ee9 1eeb 1eed 1eef 1ef1 1ef3 1ef5 1ef7 1ef9 1efb 1efd 1eff-1f07 1f10-1f15 1f20-1f27
   1f30-1f37 1f40-1f45 1f50-1f57 1f60-1f67 1f70 1f72 1f74 1f76 1f78 1f7a 1f7c 1fb0-1fb1 1fb6
   1fc6 1fd0-1fd2 1fd6-1fd7 1fe0-1fe2 1fe4-1fe7 1ff6 200c-200d 2010 2012-2016 2018-2023 2027
   2030-2032 2035 2038-203b 203d 203f-2046 204a-2056 2058-205e 20a0-20a7 20a9-20c1 20d0-20f0
   2104 2108 2114 2117-2118 211e-211f 2123 2125 2127 2129 212e 213a 2141-2144 214a-214f
   2180-2182 2184-2188 218a-218b 2190-222b 222e 2231-2328 232b-2429 2440-244a 24eb-2a0b
   2a0d-2a73 2a77-2adb 2add-2b73 2b76-2bff 2c30-2c5f 2c61 2c65-2c66 2c68 2c6a 2c6c 2c71
   2c73-2c74 2c76-2c7b 2c81 2c83 2c85 2c87 2c89 2c8b 2c8d 2c8f 2c91 2c93 2c95 2c97 2c99 2c9b
   2c9d 2c9f 2ca1 2ca3 2ca5 2ca7 2ca9 2cab 2cad 2caf 2cb1 2cb3 2cb5 2cb7 2cb9 2cbb 2cbd 2cbf
   2cc1 2cc3 2cc5 2cc7 2cc9 2ccb 2ccd 2ccf 2cd1 2cd3 2cd5 2cd7 2cd9 2cdb 2cdd 2cdf 2ce1
   2ce3-2cea 2cec 2cee-2cf1 2cf3 2cf9-2d25 2d27 2d2d 2d30-2d67 2d70 2d7f-2d96 2da0-2da6
   2da8-2dae 2db0-2db6 2db8-2dbe 2dc0-2dc6 2dc8-2dce 2dd0-2dd6 2dd8-2dde 2de0-2e5d 2e80-2e99
   2e9b-2e9e 2ea0-2ef2 3001 3003-3035 3037 303b-303f 3041-3096 3099-309a 309d-309e 30a0-30fe
   3105-312f 3190-3191 31a0-31e5 31f0-31ff 3248-324f 327f 3400-a48c a490-a4c6 a4d0-a62b a641
   a643 a645 a647 a649 a64b a64d a64f a651 a653 a655 a657 a659 a65b a65d a65f a661 a663 a665
   a667 a669 a66b a66d-a67f a681 a683 a685 a687 a689 a68b a68d a68f a691 a693 a695 a697 a699
   a69b a69e-a6f7 a700-a721 a723 a725 a727 a729 a72b a72d a72f-a731 a733 a735 a737 a739 a73b
   a73d a73f a741 a743 a745 a747 a749 a74b a74d a74f a751 a753 a755 a757 a759 a75b a75d a75f
   a761 a763 a765 a767 a769 a76b a76d a76f a771-a778 a77a a77c a77f a781 a783 a785 a787-a78a
   a78c a78e-a78f a791 a793-a795 a797 a799 a79b a79d a79f a7a1 a7a3 a7a5 a7a7 a7a9 a7af a7b5
   a7b7 a7b9 a7bb a7bd a7bf a7c1 a7c3 a7c8 a7ca a7cd a7cf a7d1 a7d3 a7d5 a7d7 a7d9 a7db
   a7f6-a7f7 a7fa-a82c a830-a839 a840-a877 a880-a8c5 a8ce-a8d9 a8e0-a953 a95f-a97c a980-a9cd
   a9cf-a9d9 a9de-a9fe aa00-aa36 aa40-aa4d aa50-aa59 aa5c-aac2 aadb-aaf6 ab01-ab06 ab09-ab0e
   ab11-ab16 ab20-ab26 ab28-ab2e ab30-ab5b ab60-ab68 ab6a-ab6b abc0-abed abf0-abf9 ac00-d7a3
   d7b0-d7c6 d7cb-d7fb fa0e-fa0f fa11 fa13-fa14 fa1f fa21 fa23-fa24 fa27-fa29 fb1e fbb2-fbd2
   fd3e-fd4f fd90-fd91 fdc8-fdcf fdfd-fdff fe20-fe2f fe45-fe46 fe73 10000-1000b 1000d-10026
   10028-1003a 1003c-1003d 1003f-1004d 10050-1005d 10080-100fa 10100-10102 10107-10133
   10137-1018e 10190-1019c 101a0 101d0-101fd 10280-1029c 102a0-102d0 102e0-102fb 10300-10323
   1032d-1034a 10350-1037a 10380-1039d 1039f-103c3 103c8-103d5 10428-1049d 104a0-104a9
   104d8-104fb 10500-10527 10530-10563 1056f 10597-105a1 105a3-105b1 105b3-105b9 105bb-105bc
   105c0-105f3 10600-10736 10740-10755 10760-10767 10780 10800-10805 10808 1080a-10835
   10837-10838 1083c 1083f-10855 10857-1089e 108a7-108af 108e0-108f2 108f4-108f5 108fb-1091b
   1091f-10939 1093f-10959 10980-109b7 109bc-109cf 109d2-10a03 10a05-10a06 10a0c-10a13
   10a15-10a17 10a19-10a35 10a38-10a3a 10a3f-10a48 10a50-10a58 10a60-10a9f 10ac0-10ae6
   10aeb-10af6 10b00-10b35 10b39-10b55 10b58-10b72 10b78-10b91 10b99-10b9c 10ba9-10baf
   10c00-10c48 10cc0-10cf2 10cfa-10d27 10d30-10d39 10d40-10d4f 10d69-10d85 10d8e-10d8f
   10e60-10e7e 10e80-10ea9 10eab-10ead 10eb0-10eb1 10ec2-10ec7 10ed0-10ed8 10efa-10f27
   10f30-10f59 10f70-10f89 10fb0-10fcb 10fe0-10ff6 11000-1104d 11052-11075 1107f-110bc
   110be-110c2 110d0-110e8 110f0-110f9 11100-11134 11136-11147 11150-11176 11180-111df
   111e1-111f4 11200-11211 11213-11241 11280-11286 11288 1128a-1128d 1128f-1129d 1129f-112a9
   112b0-112ea 112f0-112f9 11300-11303 11305-1130c 1130f-11310 11313-11328 1132a-11330
   11332-11333 11335-11339 1133b-11344 11347-11348 1134b-1134d 11350 11357 1135d-11363
   11366-1136c 11370-11374 11380-11389 1138b 1138e 11390-113b5 113b7-113c0 113c2 113c5
   113c7-113ca 113cc-113d5 113d7-113d8 113e1-113e2 11400-1145b 1145d-11461 11480-114c7
   114d0-114d9 11580-115b5 115b8-115dd 11600-11644 11650-11659 11660-1166c 11680-116b9
   116c0-116c9 116d0-116e3 11700-1171a 1171d-1172b 11730-11746 11800-1183b 118c0-118f2
   118ff-11906 11909 1190c-11913 11915-11916 11918-11935 11937-11938 1193b-11946 11950-11959
   119a0-119a7 119aa-119d7 119da-119e4 11a00-11a47 11a50-11aa2 11ab0-11af8 11b00-11b09
   11b60-11b67 11bc0-11be1 11bf0-11bf9 11c00-11c08 11c0a-11c36 11c38-11c45 11c50-11c6c
   11c70-11c8f 11c92-11ca7 11ca9-11cb6 11d00-11d06 11d08-11d09 11d0b-11d36 11d3a 11d3c-11d3d
   11d3f-11d47 11d50-11d59 11d60-11d65 11d67-11d68 11d6a-11d8e 11d90-11d91 11d93-11d98
   11da0-11da9 11db0-11ddb 11de0-11de9 11ee0-11ef8 11f00-11f10 11f12-11f3a 11f3e-11f5a 11fb0
   11fc0-11ff1 11fff-12399 12400-1246e 12470-12474 12480-12543 12f90-12ff2 13000-1342f
   13440-13455 13460-143fa 14400-14646 16100-16139 16800-16a38 16a40-16a5e 16a60-16a69
   16a6e-16abe 16ac0-16ac9 16ad0-16aed 16af0-16af5 16b00-16b45 16b50-16b59 16b5b-16b61
   16b63-16b77 16b7d-16b8f 16d40-16d79 16e60-16e9a 16ebb-16ed3 16f00-16f4a 16f4f-16f87
   16f8f-16f9f 16fe0-16fe4 16ff0-16ff6 17000-18cd5 18cff-18d1e 18d80-18df2 1aff0-1aff3
   1aff5-1affb 1affd-1affe 1b000-1b122 1b132 1b150-1b152 1b155 1b164-1b167 1b170-1b2fb
   1bc00-1bc6a 1bc70-1bc7c 1bc80-1bc88 1bc90-1bc99 1bc9c-1bc9f 1cc00-1ccd5 1ccfa-1ccfc
   1cd00-1ceb3 1ceba-1ced0 1cee0-1cef0 1cf00-1cf2d 1cf30-1cf46 1cf50-1cfc3 1d000-1d0f5
   1d100-1d126 1d129-1d15d 1d165-1d172 1d17b-1d1ba 1d1c1-1d1ea 1d200-1d245 1d2c0-1d2d3
   1d2e0-1d2f3 1d300-1d356 1d360-1d378 1d800-1da8b 1da9b-1da9f 1daa1-1daaf 1df00-1df1e
   1df25-1df2a 1e000-1e006 1e008-1e018 1e01b-1e021 1e023-1e024 1e026-1e02a 1e08f 1e100-1e12c
   1e130-1e13d 1e140-1e149 1e14e-1e14f 1e290-1e2ae 1e2c0-1e2f9 1e2ff 1e4d0-1e4f9 1e5d0-1e5fa
   1e5ff 1e6c0-1e6de 1e6e0-1e6f5 1e6fe-1e6ff 1e7e0-1e7e6 1e7e8-1e7eb 1e7ed-1e7ee 1e7f0-1e7fe
   1e800-1e8c4 1e8c7-1e8d6 1e922-1e94b 1e950-1e959 1e95e-1e95f 1ec71-1ecb4 1ed01-1ed3d
   1eef0-1eef1 1f000-1f02b 1f030-1f093 1f0a0-1f0ae 1f0b1-1f0bf 1f0c1-1f0cf 1f0d1-1f0f5
   1f10b-1f10f 1f12f 1f150-1f169 1f16d-1f18f 1f191-1f1ad 1f1e6-1f1ff 1f260-1f265 1f300-1f6d8
   1f6dc-1f6ec 1f6f0-1f6fc 1f700-1f7d9 1f7e0-1f7eb 1f7f0 1f800-1f80b 1f810-1f847 1f850-1f859
   1f860-1f887 1f890-1f8ad 1f8b0-1f8bb 1f8c0-1f8c1 1f8d0-1f8d8 1f900-1fa57 1fa60-1fa6d
   1fa70-1fa7c 1fa80-1fa8a 1fa8e-1fac6 1fac8 1facd-1fadc 1fadf-1faea 1faef-1faf8 1fb00-1fb92
   1fb94-1fbef 1fbfa 20000-2a6df 2a700-2b81d 2b820-2cead 2ceb0-2ebe0 2ebf0-2ee5d 30000-3134a
   31350-33479"

/-- Ranges `first-last`. -/
def ignoredRows : String :=
  "ad 34f 115f-1160 17b4-17b5 180b-180f 200b 2060-2064 206a-206f 3164 fe00-fe0f feff ffa0
   1bca0-1bca3 1d173-1d17a e0100-e01ef"

/-- Runs `first-last/stride:target of the first`. -/
def mappedRunRows : String :=
  "41-5a/1:61 c0-d6/1:e0 d8-de/1:f8 100-12e/2:101 141-147/2:142 14a-176/2:14b 1cd-1db/2:1ce
   1de-1ee/2:1df 1f8-21e/2:1f9 222-232/2:223 246-24e/2:247 391-3a1/1:3b1 3a3-3ab/1:3c3
   3d8-3ee/2:3d9 400-40f/1:450 410-42f/1:430 460-480/2:461 48a-4be/2:48b 4c1-4cd/2:4c2
   4d0-52e/2:4d1 531-556/1:561 10a0-10c5/1:2d00 13f8-13fd/1:13f0 1c90-1cba/1:10d0
   1d31-1d39/2:65 1d34-1d3a/2:68 1dae-1db1/1:272 1e00-1e94/2:1e01 1ea0-1efe/2:1ea1
   1f08-1f0f/1:1f00 1f18-1f1d/1:1f10 1f28-1f2f/1:1f20 1f38-1f3f/1:1f30 1f48-1f4d/1:1f40
   1f59-1f5f/2:1f51 1f68-1f6f/1:1f60 2074-2079/1:34 2080-2089/1:30 2096-2099/1:6b
   2135-2138/1:5d0 2460-2468/1:31 24b6-24cf/1:61 24d0-24e9/1:61 2c00-2c2f/1:2c30
   2c80-2ce2/2:2c81 313a-313f/1:11b0 3145-314e/1:1109 314f-3163/1:1161 3178-317c/1:112b
   3269-326d/1:110e 32e4-32e9/1:30ca 32ee-32f2/1:30de 32f5-32fa/1:30e8 32fb-32fe/1:30ef
   a640-a66c/2:a641 a680-a69a/2:a681 a722-a72e/2:a723 a732-a76e/2:a733 a77e-a786/2:a77f
   a796-a7a8/2:a797 a7b4-a7c2/2:a7b5 a7cc-a7da/2:a7cd ab70-abbf/1:13a0 fe41-fe44/1:300c
   ff01-ff20/1:21 ff21-ff3a/1:61 ff3b-ff5e/1:5b ff85-ff8a/1:30ca ff8f-ff93/1:30de
   ff96-ff9b/1:30e8 ffaa-ffaf/1:11b0 ffb5-ffbe/1:1109 ffc2-ffc7/1:1161 ffca-ffcf/1:1167
   ffd2-ffd7/1:116d ffe9-ffec/1:2190 10400-10427/1:10428 104b0-104d3/1:104d8
   10570-10594/2:10597 10571-10579/2:10598 1057d-10589/2:105a4 10c80-10cb2/1:10cc0
   10d50-10d65/1:10d70 118a0-118bf/1:118c0 16e40-16e5f/1:16e60 16ea0-16eb8/1:16ebb
   1ccd6-1ccef/1:61 1ccf0-1ccf9/1:30 1d400-1d419/1:61 1d41a-1d433/1:61 1d434-1d44d/1:61
   1d44e-1d466/2:61 1d457-1d467/2:6a 1d468-1d481/1:61 1d482-1d49b/1:61 1d4a9-1d4ac/1:6e
   1d4ae-1d4b5/1:73 1d4b6-1d4b9/1:61 1d4bb-1d4cf/2:66 1d4c6-1d4ce/2:71 1d4d0-1d4e9/1:61
   1d4ea-1d503/1:61 1d507-1d50a/1:64 1d50d-1d514/1:6a 1d516-1d51c/1:73 1d51e-1d537/1:61
   1d53b-1d53e/1:64 1d540-1d544/1:69 1d54a-1d550/1:73 1d552-1d56b/1:61 1d56c-1d585/1:61
   1d586-1d59f/1:61 1d5a0-1d5b9/1:61 1d5ba-1d5d3/1:61 1d5d4-1d5ed/1:61 1d5ee-1d607/1:61
   1d608-1d621/1:61 1d622-1d63b/1:61 1d63c-1d655/1:61 1d656-1d66f/1:61 1d670-1d689/1:61
   1d68a-1d6a3/1:61 1d6a8-1d6b8/1:3b1 1d6ba-1d6c0/1:3c3 1d6c2-1d6d2/1:3b1 1d6d4-1d6da/1:3c3
   1d6e2-1d6f2/1:3b1 1d6f4-1d6fa/1:3c3 1d6fc-1d70c/1:3b1 1d70e-1d714/1:3c3 1d71c-1d72c/1:3b1
   1d72e-1d734/1:3c3 1d736-1d746/1:3b1 1d748-1d74e/1:3c3 1d756-1d766/1:3b1 1d768-1d76e/1:3c3
   1d770-1d780/1:3b1 1d782-1d788/1:3c3 1d790-1d7a0/1:3b1 1d7a2-1d7a8/1:3c3 1d7aa-1d7ba/1:3b1
   1d7bc-1d7c2/1:3c3 1d7ce-1d7d7/1:30 1d7d8-1d7e1/1:30 1d7e2-1d7eb/1:30 1d7ec-1d7f5/1:30
   1d7f6-1d7ff/1:30 1e030-1e038/1:430 1e03c-1e046/1:43e 1e051-1e059/1:430 1e05f-1e064/1:443
   1e900-1e921/1:1e922 1ee0a-1ee0d/1:643 1ee2a-1ee2d/1:643 1f130-1f149/1:61 1fbf0-1fbf9/1:30"

/-- Consecutive characters `first:target/target`; a target is characters joined by points. -/
def mappedRows : String :=
  "a0:20 a8:20.308 aa:61 af:20.304 b2:32/33/20.301/3bc b8:20.327/31/6f
   bc:31.2044.34/31.2044.32/33.2044.34 df:73.73 130:69.307 132:69.6a/69.6a/135 136:137 139:13a
   13b:13c 13d:13e 13f:6c.b7/6c.b7 149:2bc.6e 178:ff/17a 17b:17c 17d:17e 17f:73 181:253/183
   184:185 186:254/188 189:256/257/18c 18e:1dd/259/25b/192 193:260/263 196:269/268/199
   19c:26f/272 19f:275/1a1 1a2:1a3 1a4:1a5 1a6:280/1a8 1a9:283 1ac:1ad 1ae:288/1b0
   1b1:28a/28b/1b4 1b5:1b6 1b7:292/1b9 1bc:1bd
   1c4:64.17e/64.17e/64.17e/6c.6a/6c.6a/6c.6a/6e.6a/6e.6a/6e.6a 1f1:64.7a/64.7a/64.7a/1f5
   1f6:195/1bf 220:19e 23a:2c65/23c 23d:19a/2c66 241:242 243:180/289/28c
   2b0:68/266/6a/72/279/27b/281/77/79 2d8:20.306/20.307/20.30a/20.328/20.303/20.30b
   2e0:263/6c/73/78/295 340:300/301 343:313/308.301/3b9 370:371 372:373 374:2b9 376:377
   37a:20.3b9 37e:3b/3f3 384:20.301/20.308.301/3ac/b7/3ad/3ae/3af 38c:3cc 38e:3cd/3ce 3c2:3c3
   3cf:3d7/3b2/3b8/3c5/3cd/3cb/3c6/3c0 3f0:3ba/3c1/3c3 3f4:3b8/3b5 3f7:3f8 3f9:3c3/3fb
   3fd:37b/37c/37d 4c0:4cf 587:565.582 675:627.674/648.674/6c7.674/64a.674
   958:915.93c/916.93c/917.93c/91c.93c/921.93c/922.93c/92b.93c/92f.93c 9dc:9a1.9bc/9a2.9bc
   9df:9af.9bc a33:a32.a3c a36:a38.a3c a59:a16.a3c/a17.a3c/a1c.a3c a5e:a2b.a3c
   b5c:b21.b3c/b22.b3c e33:e4d.e32 eb3:ecd.eb2 edc:eab.e99/eab.ea1 f0c:f0b f43:f42.fb7
   f4d:f4c.fb7 f52:f51.fb7 f57:f56.fb7 f5c:f5b.fb7 f69:f40.fb5 f73:f71.f72
   f75:f71.f74/fb2.f80/fb2.f71.f80/fb3.f80/fb3.f71.f80 f81:f71.f80 f93:f92.fb7 f9d:f9c.fb7
   fa2:fa1.fb7 fa7:fa6.fb7 fac:fab.fb7 fb9:f90.fb5 10c7:2d27 10cd:2d2d 10fc:10dc
   1c80:432/434/43e/441/442/442/44a/463/a64b/1c8a 1cbd:10fd/10fe/10ff 1d2c:61/e6/62 1d30:64
   1d32:1dd 1d3c:6f/223/70/72/74/75/77/61/250/251 1d46:1d02/62/64/65/259/25b/25c/67
   1d4f:6b/6d/14b/6f/254/1d16/1d17/70/74/75 1d59:1d1d/26f/76/1d25/3b2/3b3/3b4/3c6/3c7/69
   1d63:72/75/76/3b2/3b3/3c1/3c6/3c7 1d78:43d 1d9b:252/63/255/f0/25c/66/25f/261/265/268
   1da5:269/26a/1d7b/29d/26d/1d85/29f/271/270 1db2:278/282/283/1ab/289/28a/1d1c/28b/28c/7a
   1dbc:290/291/292/3b8 1e9a:61.2be/1e61 1e9e:df 1f71:3ac 1f73:3ad 1f75:3ae 1f77:3af 1f79:3cc
   1f7b:3cd 1f7d:3ce
   1f80:1f00.3b9/1f01.3b9/1f02.3b9/1f03.3b9/1f04.3b9/1f05.3b9/1f06.3b9/1f07.3b9/1f00.3b9/1f01.3b9
   1f8a:1f02.3b9/1f03.3b9/1f04.3b9/1f05.3b9/1f06.3b9/1f07.3b9/1f20.3b9/1f21.3b9/1f22.3b9/1f23.3b9
   1f94:1f24.3b9/1f25.3b9/1f26.3b9/1f27.3b9/1f20.3b9/1f21.3b9/1f22.3b9/1f23.3b9/1f24.3b9/1f25.3b9
   1f9e:1f26.3b9/1f27.3b9/1f60.3b9/1f61.3b9/1f62.3b9/1f63.3b9/1f64.3b9/1f65.3b9/1f66.3b9/1f67.3b9
   1fa8:1f60.3b9/1f61.3b9/1f62.3b9/1f63.3b9/1f64.3b9/1f65.3b9/1f66.3b9/1f67.3b9
   1fb2:1f70.3b9/3b1.3b9/3ac.3b9
   1fb7:1fb6.3b9/1fb0/1fb1/1f70/3ac/3b1.3b9/20.313/3b9/20.313/20.342
   1fc1:20.308.342/1f74.3b9/3b7.3b9/3ae.3b9
   1fc7:1fc6.3b9/1f72/3ad/1f74/3ae/3b7.3b9/20.313.300/20.313.301/20.313.342 1fd3:390
   1fd8:1fd0/1fd1/1f76/3af 1fdd:20.314.300/20.314.301/20.314.342 1fe3:3b0
   1fe8:1fe0/1fe1/1f7a/3cd/1fe5/20.308.300/20.308.301/60 1ff2:1f7c.3b9/3c9.3b9/3ce.3b9
   1ff7:1ff6.3b9/1f78/3cc/1f7c/3ce/3c9.3b9/20.301/20.314 2000:20/20/20/20/20/20/20/20/20/20
   200a:20 200c:/ 2011:2010 2017:20.333 202f:20 2033:2032.2032/2032.2032.2032
   2036:2035.2035/2035.2035.2035 203c:21.21 203e:20.305 2047:3f.3f/3f.21/21.3f
   2057:2032.2032.2032.2032 205f:20 2070:30/69 207a:2b/2212/3d/28/29/6e 208a:2b/2212/3d/28/29
   2090:61/65/6f/78/259/68 209a:70/73/74 20a8:72.73 2100:61.2f.63/61.2f.73/63/b0.63
   2105:63.2f.6f/63.2f.75/25b 2109:b0.66/67/68/68/68/68/127/69/69/6c 2113:6c 2115:6e/6e.6f
   2119:70/71/72/72/72 2120:73.6d/74.65.6c/74.6d 2124:7a 2126:3c9 2128:7a 212a:6b/e5/62/63
   212f:65/65/66/214e/6d/6f 2139:69 213b:66.61.78/3c0/3b3/3b3/3c0/2211 2145:64/64/65/69/6a
   2150:31.2044.37/31.2044.39/31.2044.31.30/31.2044.33/32.2044.33/31.2044.35/32.2044.35/33.2044.35/34.2044.35/31.2044.36
   215a:35.2044.36/31.2044.38/33.2044.38/35.2044.38/37.2044.38/31.2044/69/69.69/69.69.69/69.76
   2164:76/76.69/76.69.69/76.69.69.69/69.78/78/78.69/78.69.69/6c/63
   216e:64/6d/69/69.69/69.69.69/69.76/76/76.69/76.69.69/76.69.69.69
   2178:69.78/78/78.69/78.69.69/6c/63/64/6d 2183:2184 2189:30.2044.33
   222c:222b.222b/222b.222b.222b 222f:222e.222e/222e.222e.222e 2329:3008/3009
   2469:31.30/31.31/31.32/31.33/31.34/31.35/31.36/31.37/31.38/31.39
   2473:32.30/28.31.29/28.32.29/28.33.29/28.34.29/28.35.29/28.36.29/28.37.29/28.38.29/28.39.29
   247d:28.31.30.29/28.31.31.29/28.31.32.29/28.31.33.29/28.31.34.29/28.31.35.29/28.31.36.29/28.31.37.29/28.31.38.29/28.31.39.29
   2487:28.32.30.29
   249c:28.61.29/28.62.29/28.63.29/28.64.29/28.65.29/28.66.29/28.67.29/28.68.29/28.69.29/28.6a.29
   24a6:28.6b.29/28.6c.29/28.6d.29/28.6e.29/28.6f.29/28.70.29/28.71.29/28.72.29/28.73.29/28.74.29
   24b0:28.75.29/28.76.29/28.77.29/28.78.29/28.79.29/28.7a.29 24ea:30 2a0c:222b.222b.222b.222b
   2a74:3a.3a.3d/3d.3d/3d.3d.3d 2adc:2add.338 2c60:2c61 2c62:26b/1d7d/27d 2c67:2c68 2c69:2c6a
   2c6b:2c6c 2c6d:251/271/250/252 2c72:2c73 2c75:2c76 2c7c:6a/76/23f/240 2ceb:2cec 2ced:2cee
   2cf2:2cf3 2d6f:2d61 2e9f:6bcd 2ef3:9f9f
   2f00:4e00/4e28/4e36/4e3f/4e59/4e85/4e8c/4ea0/4eba/513f
   2f0a:5165/516b/5182/5196/51ab/51e0/51f5/5200/529b/52f9
   2f14:5315/531a/5338/5341/535c/5369/5382/53b6/53c8/53e3
   2f1e:56d7/571f/58eb/5902/590a/5915/5927/5973/5b50/5b80
   2f28:5bf8/5c0f/5c22/5c38/5c6e/5c71/5ddb/5de5/5df1/5dfe
   2f32:5e72/5e7a/5e7f/5ef4/5efe/5f0b/5f13/5f50/5f61/5f73
   2f3c:5fc3/6208/6236/624b/652f/6534/6587/6597/65a4/65b9
   2f46:65e0/65e5/66f0/6708/6728/6b20/6b62/6b79/6bb3/6bcb
   2f50:6bd4/6bdb/6c0f/6c14/6c34/706b/722a/7236/723b/723f
   2f5a:7247/7259/725b/72ac/7384/7389/74dc/74e6/7518/751f
   2f64:7528/7530/758b/7592/7676/767d/76ae/76bf/76ee/77db
   2f6e:77e2/77f3/793a/79b8/79be/7a74/7acb/7af9/7c73/7cf8
   2f78:7f36/7f51/7f8a/7fbd/8001/800c/8012/8033/807f/8089
   2f82:81e3/81ea/81f3/81fc/820c/821b/821f/826e/8272/8278
   2f8c:864d/866b/8840/884c/8863/897e/898b/89d2/8a00/8c37
   2f96:8c46/8c55/8c78/8c9d/8d64/8d70/8db3/8eab/8eca/8f9b
   2fa0:8fb0/8fb5/9091/9149/91c6/91cc/91d1/9577/9580/961c
   2faa:96b6/96b9/96e8/9751/975e/9762/9769/97cb/97ed/97f3
   2fb4:9801/98a8/98db/98df/9996/9999/99ac/9aa8/9ad8/9adf
   2fbe:9b25/9b2f/9b32/9b3c/9b5a/9ce5/9e75/9e7f/9ea5/9ebb
   2fc8:9ec3/9ecd/9ed1/9ef9/9efd/9f0e/9f13/9f20/9f3b/9f4a 2fd2:9f52/9f8d/9f9c/9fa0 3000:20
   3002:2e 3036:3012 3038:5341/5344/5345 309b:20.3099/20.309a 309f:3088.308a 30ff:30b3.30c8
   3131:1100/1101/11aa/1102/11ac/11ad/1103/1104/1105 3140:111a/1106/1107/1108/1121
   3165:1114/1115/11c7/11c8/11cc/11ce/11d3/11d7/11d9/111c
   316f:11dd/11df/111d/111e/1120/1122/1123/1127/1129
   317d:1132/1136/1140/1147/114c/11f1/11f2/1157/1158/1159
   3187:1184/1185/1188/1191/1192/1194/119e/11a1
   3192:4e00/4e8c/4e09/56db/4e0a/4e2d/4e0b/7532/4e59/4e19 319c:4e01/5929/5730/4eba
   3200:28.1100.29/28.1102.29/28.1103.29/28.1105.29/28.1106.29/28.1107.29/28.1109.29/28.110b.29/28.110c.29/28.110e.29
   320a:28.110f.29/28.1110.29/28.1111.29/28.1112.29/28.ac00.29/28.b098.29/28.b2e4.29/28.b77c.29/28.b9c8.29/28.bc14.29
   3214:28.c0ac.29/28.c544.29/28.c790.29/28.cc28.29/28.ce74.29/28.d0c0.29/28.d30c.29/28.d558.29/28.c8fc.29/28.c624.c804.29
   321e:28.c624.d6c4.29
   3220:28.4e00.29/28.4e8c.29/28.4e09.29/28.56db.29/28.4e94.29/28.516d.29/28.4e03.29/28.516b.29/28.4e5d.29/28.5341.29
   322a:28.6708.29/28.706b.29/28.6c34.29/28.6728.29/28.91d1.29/28.571f.29/28.65e5.29/28.682a.29/28.6709.29/28.793e.29
   3234:28.540d.29/28.7279.29/28.8ca1.29/28.795d.29/28.52b4.29/28.4ee3.29/28.547c.29/28.5b66.29/28.76e3.29/28.4f01.29
   323e:28.8cc7.29/28.5354.29/28.796d.29/28.4f11.29/28.81ea.29/28.81f3.29/554f/5e7c/6587/7b8f
   3250:70.74.65/32.31/32.32/32.33/32.34/32.35/32.36/32.37/32.38/32.39
   325a:33.30/33.31/33.32/33.33/33.34/33.35/1100/1102/1103/1105 3264:1106/1107/1109/110b/110c
   326e:ac00/b098/b2e4/b77c/b9c8/bc14/c0ac/c544/c790/cc28
   3278:ce74/d0c0/d30c/d558/cc38.ace0/c8fc.c758/c6b0
   3280:4e00/4e8c/4e09/56db/4e94/516d/4e03/516b/4e5d/5341
   328a:6708/706b/6c34/6728/91d1/571f/65e5/682a/6709/793e
   3294:540d/7279/8ca1/795d/52b4/79d8/7537/5973/9069/512a
   329e:5370/6ce8/9805/4f11/5199/6b63/4e0a/4e2d/4e0b/5de6
   32a8:53f3/533b/5b97/5b66/76e3/4f01/8cc7/5354/591c/33.36
   32b2:33.37/33.38/33.39/34.30/34.31/34.32/34.33/34.34/34.35/34.36
   32bc:34.37/34.38/34.39/35.30/31.6708/32.6708/33.6708/34.6708/35.6708/36.6708
   32c6:37.6708/38.6708/39.6708/31.30.6708/31.31.6708/31.32.6708/68.67/65.72.67/65.76/6c.74.64
   32d0:30a2/30a4/30a6/30a8/30aa/30ab/30ad/30af/30b1/30b3
   32da:30b5/30b7/30b9/30bb/30bd/30bf/30c1/30c4/30c6/30c8 32ea:30d2/30d5/30d8/30db
   32f3:30e4/30e6
   32ff:4ee4.548c/30a2.30d1.30fc.30c8/30a2.30eb.30d5.30a1/30a2.30f3.30da.30a2/30a2.30fc.30eb/30a4.30cb.30f3.30b0/30a4.30f3.30c1/30a6.30a9.30f3/30a8.30b9.30af.30fc.30c9/30a8.30fc.30ab.30fc
   3309:30aa.30f3.30b9/30aa.30fc.30e0/30ab.30a4.30ea/30ab.30e9.30c3.30c8/30ab.30ed.30ea.30fc/30ac.30ed.30f3/30ac.30f3.30de/30ae.30ac/30ae.30cb.30fc/30ad.30e5.30ea.30fc
   3313:30ae.30eb.30c0.30fc/30ad.30ed/30ad.30ed.30b0.30e9.30e0/30ad.30ed.30e1.30fc.30c8.30eb/30ad.30ed.30ef.30c3.30c8/30b0.30e9.30e0/30b0.30e9.30e0.30c8.30f3/30af.30eb.30bc.30a4.30ed/30af.30ed.30fc.30cd/30b1.30fc.30b9
   331d:30b3.30eb.30ca/30b3.30fc.30dd/30b5.30a4.30af.30eb/30b5.30f3.30c1.30fc.30e0/30b7.30ea.30f3.30b0/30bb.30f3.30c1/30bb.30f3.30c8/30c0.30fc.30b9/30c7.30b7/30c9.30eb
   3327:30c8.30f3/30ca.30ce/30ce.30c3.30c8/30cf.30a4.30c4/30d1.30fc.30bb.30f3.30c8/30d1.30fc.30c4/30d0.30fc.30ec.30eb/30d4.30a2.30b9.30c8.30eb/30d4.30af.30eb/30d4.30b3
   3331:30d3.30eb/30d5.30a1.30e9.30c3.30c9/30d5.30a3.30fc.30c8/30d6.30c3.30b7.30a7.30eb/30d5.30e9.30f3/30d8.30af.30bf.30fc.30eb/30da.30bd/30da.30cb.30d2/30d8.30eb.30c4/30da.30f3.30b9
   333b:30da.30fc.30b8/30d9.30fc.30bf/30dd.30a4.30f3.30c8/30dc.30eb.30c8/30db.30f3/30dd.30f3.30c9/30db.30fc.30eb/30db.30fc.30f3/30de.30a4.30af.30ed/30de.30a4.30eb
   3345:30de.30c3.30cf/30de.30eb.30af/30de.30f3.30b7.30e7.30f3/30df.30af.30ed.30f3/30df.30ea/30df.30ea.30d0.30fc.30eb/30e1.30ac/30e1.30ac.30c8.30f3/30e1.30fc.30c8.30eb/30e4.30fc.30c9
   334f:30e4.30fc.30eb/30e6.30a2.30f3/30ea.30c3.30c8.30eb/30ea.30e9/30eb.30d4.30fc/30eb.30fc.30d6.30eb/30ec.30e0/30ec.30f3.30c8.30b2.30f3/30ef.30c3.30c8/30.70b9
   3359:31.70b9/32.70b9/33.70b9/34.70b9/35.70b9/36.70b9/37.70b9/38.70b9/39.70b9/31.30.70b9
   3363:31.31.70b9/31.32.70b9/31.33.70b9/31.34.70b9/31.35.70b9/31.36.70b9/31.37.70b9/31.38.70b9/31.39.70b9/32.30.70b9
   336d:32.31.70b9/32.32.70b9/32.33.70b9/32.34.70b9/68.70.61/64.61/61.75/62.61.72/6f.76/70.63
   3377:64.6d/64.6d.32/64.6d.33/69.75/5e73.6210/662d.548c/5927.6b63/660e.6cbb/682a.5f0f.4f1a.793e/70.61
   3381:6e.61/3bc.61/6d.61/6b.61/6b.62/6d.62/67.62/63.61.6c/6b.63.61.6c/70.66
   338b:6e.66/3bc.66/3bc.67/6d.67/6b.67/68.7a/6b.68.7a/6d.68.7a/67.68.7a/74.68.7a
   3395:3bc.6c/6d.6c/64.6c/6b.6c/66.6d/6e.6d/3bc.6d/6d.6d/63.6d/6b.6d
   339f:6d.6d.32/63.6d.32/6d.32/6b.6d.32/6d.6d.33/63.6d.33/6d.33/6b.6d.33/6d.2215.73/6d.2215.73.32
   33a9:70.61/6b.70.61/6d.70.61/67.70.61/72.61.64/72.61.64.2215.73/72.61.64.2215.73.32/70.73/6e.73/3bc.73
   33b3:6d.73/70.76/6e.76/3bc.76/6d.76/6b.76/6d.76/70.77/6e.77/3bc.77
   33bd:6d.77/6b.77/6d.77/6b.3c9/6d.3c9 33c3:62.71/63.63/63.64/63.2215.6b.67
   33c8:64.62/67.79/68.61/68.70/69.6e/6b.6b/6b.6d/6b.74/6c.6d/6c.6e
   33d2:6c.6f.67/6c.78/6d.62/6d.69.6c/6d.6f.6c/70.68
   33d9:70.70.6d/70.72/73.72/73.76/77.62/76.2215.6d/61.2215.6d/31.65e5/32.65e5/33.65e5
   33e3:34.65e5/35.65e5/36.65e5/37.65e5/38.65e5/39.65e5/31.30.65e5/31.31.65e5/31.32.65e5/31.33.65e5
   33ed:31.34.65e5/31.35.65e5/31.36.65e5/31.37.65e5/31.38.65e5/31.39.65e5/32.30.65e5/32.31.65e5/32.32.65e5/32.33.65e5
   33f7:32.34.65e5/32.35.65e5/32.36.65e5/32.37.65e5/32.38.65e5/32.39.65e5/33.30.65e5/33.31.65e5/67.61.6c
   a69c:44a/44c a770:a76f a779:a77a a77b:a77c a77d:1d79 a78b:a78c a78d:265 a790:a791 a792:a793
   a7aa:266/25c/261/26c/26a a7b0:29e/287/29d/ab53 a7c4:a794/282/1d8e/a7c8 a7c9:a7ca a7cb:264
   a7dc:19b a7f1:73/63/66/71/a7f6 a7f8:127/153 ab5c:a727/ab37/26b/ab52 ab69:28d
   f900:8c48/66f4/8eca/8cc8/6ed1/4e32/53e5/9f9c/9f9c/5951
   f90a:91d1/5587/5948/61f6/7669/7f85/863f/87ba/88f8/908f
   f914:6a02/6d1b/70d9/73de/843d/916a/99f1/4e82/5375/6b04
   f91e:721b/862d/9e1e/5d50/6feb/85cd/8964/62c9/81d8/881f
   f928:5eca/6717/6d6a/72fc/90ce/4f86/51b7/52de/64c4/6ad3
   f932:7210/76e7/8001/8606/865c/8def/9732/9b6f/9dfa/788c
   f93c:797f/7da0/83c9/9304/9e7f/8ad6/58df/5f04/7c60/807e
   f946:7262/78ca/8cc2/96f7/58d8/5c62/6a13/6dda/6f0f/7d2f
   f950:7e37/964b/52d2/808b/51dc/51cc/7a1c/7dbe/83f1/9675
   f95a:8b80/62cf/6a02/8afe/4e39/5be7/6012/7387/7570/5317
   f964:78fb/4fbf/5fa9/4e0d/6ccc/6578/7d22/53c3/585e/7701
   f96e:8449/8aaa/6bba/8fb0/6c88/62fe/82e5/63a0/7565/4eae
   f978:5169/51c9/6881/7ce7/826f/8ad2/91cf/52f5/5442/5973
   f982:5eec/65c5/6ffe/792a/95ad/9a6a/9e97/9ece/529b/66c6
   f98c:6b77/8f62/5e74/6190/6200/649a/6f23/7149/7489/79ca
   f996:7df4/806f/8f26/84ee/9023/934a/5217/52a3/54bd/70c8
   f9a0:88c2/8aaa/5ec9/5ff5/637b/6bae/7c3e/7375/4ee4/56f9
   f9aa:5be7/5dba/601c/73b2/7469/7f9a/8046/9234/96f6/9748
   f9b4:9818/4f8b/79ae/91b4/96b8/60e1/4e86/50da/5bee/5c3f
   f9be:6599/6a02/71ce/7642/84fc/907c/9f8d/6688/962e/5289
   f9c8:677b/67f3/6d41/6e9c/7409/7559/786b/7d10/985e/516d
   f9d2:622e/9678/502b/5d19/6dea/8f2a/5f8b/6144/6817/7387
   f9dc:9686/5229/540f/5c65/6613/674e/68a8/6ce5/7406/75e2
   f9e6:7f79/88cf/88e1/91cc/96e2/533f/6eba/541d/71d0/7498
   f9f0:85fa/96a3/9c57/9e9f/6797/6dcb/81e8/7acb/7b20/7c92
   f9fa:72c0/7099/8b58/4ec0/8336/523a/5207/5ea6/62d3/7cd6
   fa04:5b85/6d1e/66b4/8f3b/884c/964d/898b/5ed3/5140/55c0 fa10:585a fa12:6674
   fa15:51de/732a/76ca/793c/795e/7965/798f/9756/7cbe/7fbd fa20:8612 fa22:8af8 fa25:9038/90fd
   fa2a:98ef/98fc/9928/9db4/90de/96b7/4fae/50e7/514d/52c9
   fa34:52e4/5351/559d/5606/5668/5840/58a8/5c64/5c6e/6094
   fa3e:6168/618e/61f2/654f/65e2/6691/6885/6d77/6e1a/6f22
   fa48:716e/722b/7422/7891/793e/7949/7948/7950/7956/795d
   fa52:798d/798e/7a40/7a81/7bc0/7df4/7e09/7e41/7f72/8005
   fa5c:81ed/8279/8279/8457/8910/8996/8b01/8b39/8cd3/8d08
   fa66:8fb6/9038/96e3/97ff/983b/6075/242ee/8218
   fa70:4e26/51b5/5168/4f80/5145/5180/52c7/52fa/559d/5555
   fa7a:5599/55e2/585a/58b3/5944/5954/5a62/5b28/5ed2/5ed9
   fa84:5f69/5fad/60d8/614e/6108/618e/6160/61f2/6234/63c4
   fa8e:641c/6452/6556/6674/6717/671b/6756/6b79/6bba/6d41
   fa98:6edb/6ecb/6f22/701e/716e/77a7/7235/72af/732a/7471
   faa2:7506/753b/761d/761f/76ca/76db/76f4/774a/7740/78cc
   faac:7ab1/7bc0/7c7b/7d5b/7df4/7f3e/8005/8352/83ef/8779
   fab6:8941/8986/8996/8abf/8af8/8acb/8b01/8afe/8aed/8b39
   fac0:8b8a/8d08/8f38/9072/9199/9276/967c/96e3/9756/97db
   faca:97ff/980b/983b/9b12/9f9c/2284a/22844/233d5/3b9d/4018
   fad4:4039/25249/25cd0/27ed3/9f43/9f8e fb00:66.66/66.69/66.6c/66.66.69/66.66.6c/73.74/73.74
   fb13:574.576/574.565/574.56b/57e.576/574.56d fb1d:5d9.5b4
   fb1f:5f2.5b7/5e2/5d0/5d3/5d4/5db/5dc/5dd/5e8/5ea
   fb29:2b/5e9.5c1/5e9.5c2/5e9.5bc.5c1/5e9.5bc.5c2/5d0.5b7/5d0.5b8/5d0.5bc/5d1.5bc/5d2.5bc
   fb33:5d3.5bc/5d4.5bc/5d5.5bc/5d6.5bc fb38:5d8.5bc/5d9.5bc/5da.5bc/5db.5bc/5dc.5bc
   fb3e:5de.5bc fb40:5e0.5bc/5e1.5bc fb43:5e3.5bc/5e4.5bc
   fb46:5e6.5bc/5e7.5bc/5e8.5bc/5e9.5bc/5ea.5bc/5d5.5b9/5d1.5bf/5db.5bf/5e4.5bf/5d0.5dc
   fb50:671/671/67b/67b/67b/67b/67e/67e/67e/67e fb5a:680/680/680/680/67a/67a/67a/67a/67f/67f
   fb64:67f/67f/679/679/679/679/6a4/6a4/6a4/6a4 fb6e:6a6/6a6/6a6/6a6/684/684/684/684/683/683
   fb78:683/683/686/686/686/686/687/687/687/687 fb82:68d/68d/68c/68c/68e/68e/688/688/698/698
   fb8c:691/691/6a9/6a9/6a9/6a9/6af/6af/6af/6af fb96:6b3/6b3/6b3/6b3/6b1/6b1/6b1/6b1/6ba/6ba
   fba0:6bb/6bb/6bb/6bb/6c0/6c0/6c1/6c1/6c1/6c1 fbaa:6be/6be/6be/6be/6d2/6d2/6d3/6d3
   fbd3:6ad/6ad/6ad/6ad/6c7/6c7/6c6/6c6/6c8/6c8
   fbdd:6c7.674/6cb/6cb/6c5/6c5/6c9/6c9/6d0/6d0/6d0
   fbe7:6d0/649/649/626.627/626.627/626.6d5/626.6d5/626.648/626.648/626.6c7
   fbf1:626.6c7/626.6c6/626.6c6/626.6c8/626.6c8/626.6d0/626.6d0/626.6d0/626.649/626.649
   fbfb:626.649/6cc/6cc/6cc/6cc/626.62c/626.62d/626.645/626.649/626.64a
   fc05:628.62c/628.62d/628.62e/628.645/628.649/628.64a/62a.62c/62a.62d/62a.62e/62a.645
   fc0f:62a.649/62a.64a/62b.62c/62b.645/62b.649/62b.64a/62c.62d/62c.645/62d.62c/62d.645
   fc19:62e.62c/62e.62d/62e.645/633.62c/633.62d/633.62e/633.645/635.62d/635.645/636.62c
   fc23:636.62d/636.62e/636.645/637.62d/637.645/638.645/639.62c/639.645/63a.62c/63a.645
   fc2d:641.62c/641.62d/641.62e/641.645/641.649/641.64a/642.62d/642.645/642.649/642.64a
   fc37:643.627/643.62c/643.62d/643.62e/643.644/643.645/643.649/643.64a/644.62c/644.62d
   fc41:644.62e/644.645/644.649/644.64a/645.62c/645.62d/645.62e/645.645/645.649/645.64a
   fc4b:646.62c/646.62d/646.62e/646.645/646.649/646.64a/647.62c/647.645/647.649/647.64a
   fc55:64a.62c/64a.62d/64a.62e/64a.645/64a.649/64a.64a/630.670/631.670/649.670/20.64c.651
   fc5f:20.64d.651/20.64e.651/20.64f.651/20.650.651/20.651.670/626.631/626.632/626.645/626.646/626.649
   fc69:626.64a/628.631/628.632/628.645/628.646/628.649/628.64a/62a.631/62a.632/62a.645
   fc73:62a.646/62a.649/62a.64a/62b.631/62b.632/62b.645/62b.646/62b.649/62b.64a/641.649
   fc7d:641.64a/642.649/642.64a/643.627/643.644/643.645/643.649/643.64a/644.645/644.649
   fc87:644.64a/645.627/645.645/646.631/646.632/646.645/646.646/646.649/646.64a/649.670
   fc91:64a.631/64a.632/64a.645/64a.646/64a.649/64a.64a/626.62c/626.62d/626.62e/626.645
   fc9b:626.647/628.62c/628.62d/628.62e/628.645/628.647/62a.62c/62a.62d/62a.62e/62a.645
   fca5:62a.647/62b.645/62c.62d/62c.645/62d.62c/62d.645/62e.62c/62e.645/633.62c/633.62d
   fcaf:633.62e/633.645/635.62d/635.62e/635.645/636.62c/636.62d/636.62e/636.645/637.62d
   fcb9:638.645/639.62c/639.645/63a.62c/63a.645/641.62c/641.62d/641.62e/641.645/642.62d
   fcc3:642.645/643.62c/643.62d/643.62e/643.644/643.645/644.62c/644.62d/644.62e/644.645
   fccd:644.647/645.62c/645.62d/645.62e/645.645/646.62c/646.62d/646.62e/646.645/646.647
   fcd7:647.62c/647.645/647.670/64a.62c/64a.62d/64a.62e/64a.645/64a.647/626.645/626.647
   fce1:628.645/628.647/62a.645/62a.647/62b.645/62b.647/633.645/633.647/634.645/634.647
   fceb:643.644/643.645/644.645/646.645/646.647/64a.645/64a.647/640.64e.651/640.64f.651/640.650.651
   fcf5:637.649/637.64a/639.649/639.64a/63a.649/63a.64a/633.649/633.64a/634.649/634.64a
   fcff:62d.649/62d.64a/62c.649/62c.64a/62e.649/62e.64a/635.649/635.64a/636.649/636.64a
   fd09:634.62c/634.62d/634.62e/634.645/634.631/633.631/635.631/636.631/637.649/637.64a
   fd13:639.649/639.64a/63a.649/63a.64a/633.649/633.64a/634.649/634.64a/62d.649/62d.64a
   fd1d:62c.649/62c.64a/62e.649/62e.64a/635.649/635.64a/636.649/636.64a/634.62c/634.62d
   fd27:634.62e/634.645/634.631/633.631/635.631/636.631/634.62c/634.62d/634.62e/634.645
   fd31:633.647/634.647/637.645/633.62c/633.62d/633.62e/634.62c/634.62d/634.62e/637.645
   fd3b:638.645/627.64b/627.64b
   fd50:62a.62c.645/62a.62d.62c/62a.62d.62c/62a.62d.645/62a.62e.645/62a.645.62c/62a.645.62d/62a.645.62e/62c.645.62d/62c.645.62d
   fd5a:62d.645.64a/62d.645.649/633.62d.62c/633.62c.62d/633.62c.649/633.645.62d/633.645.62d/633.645.62c/633.645.645/633.645.645
   fd64:635.62d.62d/635.62d.62d/635.645.645/634.62d.645/634.62d.645/634.62c.64a/634.645.62e/634.645.62e/634.645.645/634.645.645
   fd6e:636.62d.649/636.62e.645/636.62e.645/637.645.62d/637.645.62d/637.645.645/637.645.64a/639.62c.645/639.645.645/639.645.645
   fd78:639.645.649/63a.645.645/63a.645.64a/63a.645.649/641.62e.645/641.62e.645/642.645.62d/642.645.645/644.62d.645/644.62d.64a
   fd82:644.62d.649/644.62c.62c/644.62c.62c/644.62e.645/644.62e.645/644.645.62d/644.645.62d/645.62d.62c/645.62d.645/645.62d.64a
   fd8c:645.62c.62d/645.62c.645/645.62e.62c/645.62e.645
   fd92:645.62c.62e/647.645.62c/647.645.645/646.62d.645/646.62d.649/646.62c.645/646.62c.645/646.62c.649/646.645.64a/646.645.649
   fd9c:64a.645.645/64a.645.645/628.62e.64a/62a.62c.64a/62a.62c.649/62a.62e.64a/62a.62e.649/62a.645.64a/62a.645.649/62c.645.64a
   fda6:62c.62d.649/62c.645.649/633.62e.649/635.62d.64a/634.62d.64a/636.62d.64a/644.62c.64a/644.645.64a/64a.62d.64a/64a.62c.64a
   fdb0:64a.645.64a/645.645.64a/642.645.64a/646.62d.64a/642.645.62d/644.62d.645/639.645.64a/643.645.64a/646.62c.62d/645.62e.64a
   fdba:644.62c.645/643.645.645/644.62c.645/646.62c.62d/62c.62d.64a/62d.62c.64a/645.62c.64a/641.645.64a/628.62d.64a/643.645.645
   fdc4:639.62c.645/635.645.645/633.62e.64a/646.62c.64a
   fdf0:635.644.6d2/642.644.6d2/627.644.644.647/627.643.628.631/645.62d.645.62f/635.644.639.645/631.633.648.644/639.644.64a.647/648.633.644.645/635.644.649
   fdfa:635.644.649.20.627.644.644.647.20.639.644.64a.647.20.648.633.644.645/62c.644.20.62c.644.627.644.647/631.6cc.627.644
   fe10:2c/3001 fe13:3a/3b/21/3f/3016/3017 fe31:2014/2013/5f/5f/28/29/7b/7d/3014/3015
   fe3b:3010/3011/300a/300b/3008/3009 fe47:5b/5d/20.305/20.305/20.305/20.305/5f/5f/5f/2c
   fe51:3001 fe54:3b/3a/3f/21/2014/28/29/7b/7d/3014 fe5e:3015/23/26/2a/2b/2d/3c/3e/3d
   fe68:5c/24/25/40 fe70:20.64b/640.64b/20.64c fe74:20.64d
   fe76:20.64e/640.64e/20.64f/640.64f/20.650/640.650/20.651/640.651/20.652/640.652
   fe80:621/622/622/623/623/624/624/625/625/626 fe8a:626/626/626/627/627/628/628/628/628/629
   fe94:629/62a/62a/62a/62a/62b/62b/62b/62b/62c fe9e:62c/62c/62c/62d/62d/62d/62d/62e/62e/62e
   fea8:62e/62f/62f/630/630/631/631/632/632/633 feb2:633/633/633/634/634/634/634/635/635/635
   febc:635/636/636/636/636/637/637/637/637/638 fec6:638/638/638/639/639/639/639/63a/63a/63a
   fed0:63a/641/641/641/641/642/642/642/642/643 feda:643/643/643/644/644/644/644/645/645/645
   fee4:645/646/646/646/646/647/647/647/647/648
   feee:648/649/649/64a/64a/64a/64a/644.622/644.622/644.623
   fef8:644.623/644.625/644.625/644.627/644.627
   ff5f:2985/2986/2e/300c/300d/3001/30fb/30f2/30a1/30a3
   ff69:30a5/30a7/30a9/30e3/30e5/30e7/30c3/30fc/30a2/30a4
   ff73:30a6/30a8/30aa/30ab/30ad/30af/30b1/30b3/30b5/30b7
   ff7d:30b9/30bb/30bd/30bf/30c1/30c4/30c6/30c8 ff8b:30d2/30d5/30d8/30db ff94:30e4/30e6
   ff9c:30ef/30f3/3099/309a ffa1:1100/1101/11aa/1102/11ac/11ad/1103/1104/1105
   ffb0:111a/1106/1107/1108/1121 ffda:1173/1174/1175 ffe0:a2/a3/ac/20.304/a6/a5/20a9 ffe8:2502
   ffed:25a0/25cb 1058d:105b4 1058f:105b6 10591:105b8 10595:105bc 10781:2d0/2d1/e6/299/253
   10787:2a3/ab66/2a5/2a4/256/257/1d91/258/25e/2a9
   10791:264/262/260/29b/127/29c/267/284/2aa/2ab
   1079b:26c/1df04/a78e/26e/1df05/28e/1df06/f8/276/277
   107a5:71/27a/1df08/27d/27e/280/2a8/2a6/ab67/2a7 107af:288/2c71
   107b2:28f/2a1/2a2/298/1c0/1c1/1c2/1df0a/1df1e
   1d15e:1d157.1d165/1d158.1d165/1d158.1d165.1d16e/1d158.1d165.1d16f/1d158.1d165.1d170/1d158.1d165.1d171/1d158.1d165.1d172
   1d1bb:1d1b9.1d165/1d1ba.1d165/1d1b9.1d165.1d16e/1d1ba.1d165.1d16e/1d1b9.1d165.1d16f/1d1ba.1d165.1d16f
   1d44f:62 1d451:64 1d453:66 1d49c:61 1d49e:63/64 1d4a2:67 1d4a5:6a/6b 1d4be:69 1d4c0:6b
   1d4c2:6d 1d504:61/62 1d538:61/62 1d546:6f 1d6a4:131/237 1d6b9:3b8 1d6c1:2207 1d6d3:3c3
   1d6db:2202/3b5/3b8/3ba/3c6/3c1/3c0 1d6f3:3b8 1d6fb:2207 1d70d:3c3
   1d715:2202/3b5/3b8/3ba/3c6/3c1/3c0 1d72d:3b8 1d735:2207 1d747:3c3
   1d74f:2202/3b5/3b8/3ba/3c6/3c1/3c0 1d767:3b8 1d76f:2207 1d781:3c3
   1d789:2202/3b5/3b8/3ba/3c6/3c1/3c0 1d7a1:3b8 1d7a9:2207 1d7bb:3c3
   1d7c3:2202/3b5/3b8/3ba/3c6/3c1/3c0/3dd/3dd 1e039:43a/43b/43c
   1e047:44b/44d/44e/a689/4d9/456/458/4e9/4af/4cf 1e05a:43a/43b/43e/43f/441
   1e065:44a/44b/491/456/455/45f/4ab/a651/4b1 1ee00:627/628/62c/62f 1ee05:648/632/62d/637/64a
   1ee0e:633/639/641/635/642/631/634/62a/62b/62e 1ee18:630/636/638/63a/66e/6ba/6a1/66f
   1ee21:628/62c 1ee24:647 1ee27:62d 1ee29:64a 1ee2e:633/639/641/635/642 1ee34:634/62a/62b/62e
   1ee39:636 1ee3b:63a 1ee42:62c 1ee47:62d 1ee49:64a 1ee4b:644 1ee4d:646/633/639 1ee51:635/642
   1ee54:634 1ee57:62e 1ee59:636 1ee5b:63a 1ee5d:6ba 1ee5f:66f 1ee61:628/62c 1ee64:647
   1ee67:62d/637/64a/643 1ee6c:645/646/633/639/641/635/642 1ee74:634/62a/62b/62e
   1ee79:636/638/63a/66e 1ee7e:6a1 1ee80:627/628/62c/62f/647/648/632/62d/637/64a
   1ee8b:644/645/646/633/639/641/635/642/631/634 1ee95:62a/62b/62e/630/636/638/63a
   1eea1:628/62c/62f 1eea5:648/632/62d/637/64a 1eeab:644/645/646/633/639/641/635/642/631/634
   1eeb5:62a/62b/62e/630/636/638/63a
   1f101:30.2c/31.2c/32.2c/33.2c/34.2c/35.2c/36.2c/37.2c/38.2c/39.2c
   1f110:28.61.29/28.62.29/28.63.29/28.64.29/28.65.29/28.66.29/28.67.29/28.68.29/28.69.29/28.6a.29
   1f11a:28.6b.29/28.6c.29/28.6d.29/28.6e.29/28.6f.29/28.70.29/28.71.29/28.72.29/28.73.29/28.74.29
   1f124:28.75.29/28.76.29/28.77.29/28.78.29/28.79.29/28.7a.29/3014.73.3015/63/72/63.64
   1f12e:77.7a 1f14a:68.76/6d.76/73.64/73.73/70.70.76/77.63 1f16a:6d.63/6d.64/6d.72 1f190:64.6a
   1f200:307b.304b/30b3.30b3/30b5 1f210:624b/5b57/53cc/30c7/4e8c/591a/89e3/5929/4ea4/6620
   1f21a:7121/6599/524d/5f8c/518d/65b0/521d/7d42/751f/8ca9
   1f224:58f0/5439/6f14/6295/6355/4e00/4e09/904a/5de6/4e2d
   1f22e:53f3/6307/8d70/6253/7981/7a7a/5408/6e80/6709/6708 1f238:7533/5272/55b6/914d
   1f240:3014.672c.3015/3014.4e09.3015/3014.4e8c.3015/3014.5b89.3015/3014.70b9.3015/3014.6253.3015/3014.76d7.3015/3014.52dd.3015/3014.6557.3015
   1f250:5f97/53ef 2f800:4e3d/4e38/4e41/20122/4f60/4fae/4fbb/5002/507a/5099
   2f80a:50e7/50cf/349e/2063a/514d/5154/5164/5177/2051c/34b9
   2f814:5167/518d/2054b/5197/51a4/4ecc/51ac/51b5/291df/51f5
   2f81e:5203/34df/523b/5246/5272/5277/3515/52c7/52c9/52e4
   2f828:52fa/5305/5306/5317/5349/5351/535a/5373/537d/537f
   2f832:537f/537f/20a2c/7070/53ca/53df/20b63/53eb/53f1/5406
   2f83c:549e/5438/5448/5468/54a2/54f6/5510/5553/5563/5584
   2f846:5584/5599/55ab/55b3/55c2/5716/5606/5717/5651/5674
   2f850:5207/58ee/57ce/57f4/580d/578b/5832/5831/58ac/214e4
   2f85a:58f2/58f7/5906/591a/5922/5962/216a8/216ea/59ec/5a1b
   2f864:5a27/59d8/5a66/36ee/36fc/5b08/5b3e/5b3e/219c8/5bc3
   2f86e:5bd8/5be7/5bf3/21b18/5bff/5c06/5f53/5c22/3781/5c60
   2f878:5c6e/5cc0/5c8d/21de4/5d43/21de6/5d6e/5d6b/5d7c/5de1
   2f882:5de2/382f/5dfd/5e28/5e3d/5e69/3862/22183/387c/5eb0
   2f88c:5eb3/5eb6/5eca/2a392/5efe/22331/22331/8201/5f22/5f22
   2f896:38c7/232b8/261da/5f62/5f6b/38e3/5f9a/5fcd/5fd7/5ff9
   2f8a0:6081/393a/391c/6094/226d4/60c7/6148/614c/614e/614c
   2f8aa:617a/618e/61b2/61a4/61af/61de/61f2/61f6/6210/621b
   2f8b4:625d/62b1/62d4/6350/22b0c/633d/62fc/6368/6383/63e4
   2f8be:22bf1/6422/63c5/63a9/3a2e/6469/647e/649d/6477/3a6c
   2f8c8:654f/656c/2300a/65e3/66f8/6649/3b19/6691/3b08/3ae4
   2f8d2:5192/5195/6700/669c/80ad/43d9/6717/671b/6721/675e
   2f8dc:6753/233c3/3b49/67fa/6785/6852/6885/2346d/688e/681f
   2f8e6:6914/3b9d/6942/69a3/69ea/6aa8/236a3/6adb/3c18/6b21
   2f8f0:238a7/6b54/3c4e/6b72/6b9f/6bba/6bbb/23a8d/21d0b/23afa
   2f8fa:6c4e/23cbc/6cbf/6ccd/6c67/6d16/6d3e/6d77/6d41/6d69
   2f904:6d78/6d85/23d1e/6d34/6e2f/6e6e/3d33/6ecb/6ec7/23ed1
   2f90e:6df9/6f6e/23f5e/23f8e/6fc6/7039/701e/701b/3d96/704a
   2f918:707d/7077/70ad/20525/7145/24263/719c/243ab/7228/7235
   2f922:7250/24608/7280/7295/24735/24814/737a/738b/3eac/73a5
   2f92c:3eb8/3eb8/7447/745c/7471/7485/74ca/3f1b/7524/24c36
   2f936:753e/24c92/7570/2219f/7610/24fa1/24fb8/25044/3ffc/4008
   2f940:76f4/250f3/250f2/25119/25133/771e/771f/771f/774a/4039
   2f94a:778b/4046/4096/2541d/784e/788c/78cc/40e3/25626/7956
   2f954:2569a/256c5/798f/79eb/412f/7a40/7a4a/7a4f/2597c/25aa7
   2f95e:25aa7/7aee/4202/25bab/7bc6/7bc9/4227/25c80/7cd2/42a0
   2f968:7ce8/7ce3/7d00/25f86/7d63/4301/7dc7/7e02/7e45/4334
   2f972:26228/26247/4359/262d9/7f7a/2633e/7f95/7ffa/8005/264da
   2f97c:26523/8060/265a8/8070/2335f/43d5/80b2/8103/440b/813e
   2f986:5ab5/267a7/267b5/23393/2339c/8201/8204/8f9e/446b/8291
   2f990:828b/829d/52b3/82b1/82b3/82bd/82e6/26b3c/82e5/831d
   2f99a:8363/83ad/8323/83bd/83e7/8457/8353/83ca/83cc/83dc
   2f9a4:26c36/26d6b/26cd5/452b/84f1/84f3/8516/273ca/8564/26f2c
   2f9ae:455d/4561/26fb1/270d2/456b/8650/865c/8667/8669/86a9
   2f9b8:8688/870e/86e2/8779/8728/876b/8786/45d7/87e1/8801
   2f9c2:45f9/8860/8863/27667/88d7/88de/4635/88fa/34bb/278ae
   2f9cc:27966/46be/46c7/8aa0/8aed/8b8a/8c55/27ca8/8cab/8cc1
   2f9d6:8d1b/8d77/27f2f/20804/8dcb/8dbc/8df0/208de/8ed4/8f38
   2f9e0:285d2/285ed/9094/90f1/9111/2872e/911b/9238/92d7/92d8
   2f9ea:927c/93f9/9415/28bfa/958b/4995/95b7/28d77/49e6/96c3
   2f9f4:5db2/9723/29145/2921a/4a6e/4a76/97e0/2940a/4ab2/29496
   2f9fe:980b/980b/9829/295b6/98e2/4b33/9929/99a7/99c2/99fe
   2fa08:4bce/29b30/9b12/9c40/9cfd/4cce/4ced/9d67/2a0ce/4cf8
   2fa12:2a105/2a20e/2a291/9ebb/4d56/9ef9/9efe/9f05/9f0f/9f16 2fa1c:9f3b/2a600"

end Automation.Url.Idna
