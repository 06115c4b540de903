/-!
# Letters and numbers

Code points from U+0080 on that are alphabetic (the letters, letter numbers and the marks
that Unicode counts as alphabetic, such as dependent vowel signs) or numbers (`N`).
-/

namespace RepoRouting.Unicode

/-- Letters and numbers beyond ASCII, as text. -/
def letterOrNumberText : String :=
  String.join [
      "aa=A;b2-b3=A;b5=A;b9-ba=A;bc-be=A;c0-d6=A;d8-f6=A;f8-2c1=A;2c6-2d1=A;2e0-2e4=A;2ec=A;2ee=A;345=A",
      ";370-374=A;376-377=A;37a-37d=A;37f=A;386=A;388-38a=A;38c=A;38e-3a1=A;3a3-3f5=A;3f7-481=A;48a-52f",
      "=A;531-556=A;559=A;560-588=A;5b0-5bd=A;5bf=A;5c1-5c2=A;5c4-5c5=A;5c7=A;5d0-5ea=A;5ef-5f2=A;610-6",
      "1a=A;620-657=A;659-669=A;66e-6d3=A;6d5-6dc=A;6e1-6e8=A;6ed-6fc=A;6ff=A;710-73f=A;74d-7b1=A;7c0-7",
      "ea=A;7f4-7f5=A;7fa=A;800-817=A;81a-82c=A;840-858=A;860-86a=A;870-887=A;889-88e=A;8a0-8c9=A;8d4-8",
      "df=A;8e3-8e9=A;8f0-93b=A;93d-94c=A;94e-950=A;955-963=A;966-96f=A;971-983=A;985-98c=A;98f-990=A;9",
      "93-9a8=A;9aa-9b0=A;9b2=A;9b6-9b9=A;9bd-9c4=A;9c7-9c8=A;9cb-9cc=A;9ce=A;9d7=A;9dc-9dd=A;9df-9e3=A",
      ";9e6-9f1=A;9f4-9f9=A;9fc=A;a01-a03=A;a05-a0a=A;a0f-a10=A;a13-a28=A;a2a-a30=A;a32-a33=A;a35-a36=A",
      ";a38-a39=A;a3e-a42=A;a47-a48=A;a4b-a4c=A;a51=A;a59-a5c=A;a5e=A;a66-a75=A;a81-a83=A;a85-a8d=A;a8f",
      "-a91=A;a93-aa8=A;aaa-ab0=A;ab2-ab3=A;ab5-ab9=A;abd-ac5=A;ac7-ac9=A;acb-acc=A;ad0=A;ae0-ae3=A;ae6",
      "-aef=A;af9-afc=A;b01-b03=A;b05-b0c=A;b0f-b10=A;b13-b28=A;b2a-b30=A;b32-b33=A;b35-b39=A;b3d-b44=A",
      ";b47-b48=A;b4b-b4c=A;b56-b57=A;b5c-b5d=A;b5f-b63=A;b66-b6f=A;b71-b77=A;b82-b83=A;b85-b8a=A;b8e-b",
      "90=A;b92-b95=A;b99-b9a=A;b9c=A;b9e-b9f=A;ba3-ba4=A;ba8-baa=A;bae-bb9=A;bbe-bc2=A;bc6-bc8=A;bca-b",
      "cc=A;bd0=A;bd7=A;be6-bf2=A;c00-c0c=A;c0e-c10=A;c12-c28=A;c2a-c39=A;c3d-c44=A;c46-c48=A;c4a-c4c=A",
      ";c55-c56=A;c58-c5a=A;c5d=A;c60-c63=A;c66-c6f=A;c78-c7e=A;c80-c83=A;c85-c8c=A;c8e-c90=A;c92-ca8=A",
      ";caa-cb3=A;cb5-cb9=A;cbd-cc4=A;cc6-cc8=A;cca-ccc=A;cd5-cd6=A;cdd-cde=A;ce0-ce3=A;ce6-cef=A;cf1-c",
      "f3=A;d00-d0c=A;d0e-d10=A;d12-d3a=A;d3d-d44=A;d46-d48=A;d4a-d4c=A;d4e=A;d54-d63=A;d66-d78=A;d7a-d",
      "7f=A;d81-d83=A;d85-d96=A;d9a-db1=A;db3-dbb=A;dbd=A;dc0-dc6=A;dcf-dd4=A;dd6=A;dd8-ddf=A;de6-def=A",
      ";df2-df3=A;e01-e3a=A;e40-e46=A;e4d=A;e50-e59=A;e81-e82=A;e84=A;e86-e8a=A;e8c-ea3=A;ea5=A;ea7-eb9",
      "=A;ebb-ebd=A;ec0-ec4=A;ec6=A;ecd=A;ed0-ed9=A;edc-edf=A;f00=A;f20-f33=A;f40-f47=A;f49-f6c=A;f71-f",
      "83=A;f88-f97=A;f99-fbc=A;1000-1036=A;1038=A;103b-1049=A;1050-109d=A;10a0-10c5=A;10c7=A;10cd=A;10",
      "d0-10fa=A;10fc-1248=A;124a-124d=A;1250-1256=A;1258=A;125a-125d=A;1260-1288=A;128a-128d=A;1290-12",
      "b0=A;12b2-12b5=A;12b8-12be=A;12c0=A;12c2-12c5=A;12c8-12d6=A;12d8-1310=A;1312-1315=A;1318-135a=A;",
      "1369-137c=A;1380-138f=A;13a0-13f5=A;13f8-13fd=A;1401-166c=A;166f-167f=A;1681-169a=A;16a0-16ea=A;",
      "16ee-16f8=A;1700-1713=A;171f-1733=A;1740-1753=A;1760-176c=A;176e-1770=A;1772-1773=A;1780-17b3=A;",
      "17b6-17c8=A;17d7=A;17dc=A;17e0-17e9=A;17f0-17f9=A;1810-1819=A;1820-1878=A;1880-18aa=A;18b0-18f5=",
      "A;1900-191e=A;1920-192b=A;1930-1938=A;1946-196d=A;1970-1974=A;1980-19ab=A;19b0-19c9=A;19d0-19da=",
      "A;1a00-1a1b=A;1a20-1a5e=A;1a61-1a74=A;1a80-1a89=A;1a90-1a99=A;1aa7=A;1abf-1ac0=A;1acc-1ace=A;1b0",
      "0-1b33=A;1b35-1b43=A;1b45-1b4c=A;1b50-1b59=A;1b80-1ba9=A;1bac-1be5=A;1be7-1bf1=A;1c00-1c36=A;1c4",
      "0-1c49=A;1c4d-1c7d=A;1c80-1c88=A;1c90-1cba=A;1cbd-1cbf=A;1ce9-1cec=A;1cee-1cf3=A;1cf5-1cf6=A;1cf",
      "a=A;1d00-1dbf=A;1de7-1df4=A;1e00-1f15=A;1f18-1f1d=A;1f20-1f45=A;1f48-1f4d=A;1f50-1f57=A;1f59=A;1",
      "f5b=A;1f5d=A;1f5f-1f7d=A;1f80-1fb4=A;1fb6-1fbc=A;1fbe=A;1fc2-1fc4=A;1fc6-1fcc=A;1fd0-1fd3=A;1fd6",
      "-1fdb=A;1fe0-1fec=A;1ff2-1ff4=A;1ff6-1ffc=A;2070-2071=A;2074-2079=A;207f-2089=A;2090-209c=A;2102",
      "=A;2107=A;210a-2113=A;2115=A;2119-211d=A;2124=A;2126=A;2128=A;212a-212d=A;212f-2139=A;213c-213f=",
      "A;2145-2149=A;214e=A;2150-2189=A;2460-249b=A;24b6-24ff=A;2776-2793=A;2c00-2ce4=A;2ceb-2cee=A;2cf",
      "2-2cf3=A;2cfd=A;2d00-2d25=A;2d27=A;2d2d=A;2d30-2d67=A;2d6f=A;2d80-2d96=A;2da0-2da6=A;2da8-2dae=A",
      ";2db0-2db6=A;2db8-2dbe=A;2dc0-2dc6=A;2dc8-2dce=A;2dd0-2dd6=A;2dd8-2dde=A;2de0-2dff=A;2e2f=A;3005",
      "-3007=A;3021-3029=A;3031-3035=A;3038-303c=A;3041-3096=A;309d-309f=A;30a1-30fa=A;30fc-30ff=A;3105",
      "-312f=A;3131-318e=A;3192-3195=A;31a0-31bf=A;31f0-31ff=A;3220-3229=A;3248-324f=A;3251-325f=A;3280",
      "-3289=A;32b1-32bf=A;3400-4dbf=A;4e00-a48c=A;a4d0-a4fd=A;a500-a60c=A;a610-a62b=A;a640-a66e=A;a674",
      "-a67b=A;a67f-a6ef=A;a717-a71f=A;a722-a788=A;a78b-a7ca=A;a7d0-a7d1=A;a7d3=A;a7d5-a7d9=A;a7f2-a805",
      "=A;a807-a827=A;a830-a835=A;a840-a873=A;a880-a8c3=A;a8c5=A;a8d0-a8d9=A;a8f2-a8f7=A;a8fb=A;a8fd-a9",
      "2a=A;a930-a952=A;a960-a97c=A;a980-a9b2=A;a9b4-a9bf=A;a9cf-a9d9=A;a9e0-a9fe=A;aa00-aa36=A;aa40-aa",
      "4d=A;aa50-aa59=A;aa60-aa76=A;aa7a-aabe=A;aac0=A;aac2=A;aadb-aadd=A;aae0-aaef=A;aaf2-aaf5=A;ab01-",
      "ab06=A;ab09-ab0e=A;ab11-ab16=A;ab20-ab26=A;ab28-ab2e=A;ab30-ab5a=A;ab5c-ab69=A;ab70-abea=A;abf0-",
      "abf9=A;ac00-d7a3=A;d7b0-d7c6=A;d7cb-d7fb=A;f900-fa6d=A;fa70-fad9=A;fb00-fb06=A;fb13-fb17=A;fb1d-",
      "fb28=A;fb2a-fb36=A;fb38-fb3c=A;fb3e=A;fb40-fb41=A;fb43-fb44=A;fb46-fbb1=A;fbd3-fd3d=A;fd50-fd8f=",
      "A;fd92-fdc7=A;fdf0-fdfb=A;fe70-fe74=A;fe76-fefc=A;ff10-ff19=A;ff21-ff3a=A;ff41-ff5a=A;ff66-ffbe=",
      "A;ffc2-ffc7=A;ffca-ffcf=A;ffd2-ffd7=A;ffda-ffdc=A;10000-1000b=A;1000d-10026=A;10028-1003a=A;1003",
      "c-1003d=A;1003f-1004d=A;10050-1005d=A;10080-100fa=A;10107-10133=A;10140-10178=A;1018a-1018b=A;10",
      "280-1029c=A;102a0-102d0=A;102e1-102fb=A;10300-10323=A;1032d-1034a=A;10350-1037a=A;10380-1039d=A;",
      "103a0-103c3=A;103c8-103cf=A;103d1-103d5=A;10400-1049d=A;104a0-104a9=A;104b0-104d3=A;104d8-104fb=",
      "A;10500-10527=A;10530-10563=A;10570-1057a=A;1057c-1058a=A;1058c-10592=A;10594-10595=A;10597-105a",
      "1=A;105a3-105b1=A;105b3-105b9=A;105bb-105bc=A;10600-10736=A;10740-10755=A;10760-10767=A;10780-10",
      "785=A;10787-107b0=A;107b2-107ba=A;10800-10805=A;10808=A;1080a-10835=A;10837-10838=A;1083c=A;1083",
      "f-10855=A;10858-10876=A;10879-1089e=A;108a7-108af=A;108e0-108f2=A;108f4-108f5=A;108fb-1091b=A;10",
      "920-10939=A;10980-109b7=A;109bc-109cf=A;109d2-10a03=A;10a05-10a06=A;10a0c-10a13=A;10a15-10a17=A;",
      "10a19-10a35=A;10a40-10a48=A;10a60-10a7e=A;10a80-10a9f=A;10ac0-10ac7=A;10ac9-10ae4=A;10aeb-10aef=",
      "A;10b00-10b35=A;10b40-10b55=A;10b58-10b72=A;10b78-10b91=A;10ba9-10baf=A;10c00-10c48=A;10c80-10cb",
      "2=A;10cc0-10cf2=A;10cfa-10d27=A;10d30-10d39=A;10e60-10e7e=A;10e80-10ea9=A;10eab-10eac=A;10eb0-10",
      "eb1=A;10f00-10f27=A;10f30-10f45=A;10f51-10f54=A;10f70-10f81=A;10fb0-10fcb=A;10fe0-10ff6=A;11000-",
      "11045=A;11052-1106f=A;11071-11075=A;11080-110b8=A;110c2=A;110d0-110e8=A;110f0-110f9=A;11100-1113",
      "2=A;11136-1113f=A;11144-11147=A;11150-11172=A;11176=A;11180-111bf=A;111c1-111c4=A;111ce-111da=A;",
      "111dc=A;111e1-111f4=A;11200-11211=A;11213-11234=A;11237=A;1123e-11241=A;11280-11286=A;11288=A;11",
      "28a-1128d=A;1128f-1129d=A;1129f-112a8=A;112b0-112e8=A;112f0-112f9=A;11300-11303=A;11305-1130c=A;",
      "1130f-11310=A;11313-11328=A;1132a-11330=A;11332-11333=A;11335-11339=A;1133d-11344=A;11347-11348=",
      "A;1134b-1134c=A;11350=A;11357=A;1135d-11363=A;11400-11441=A;11443-11445=A;11447-1144a=A;11450-11",
      "459=A;1145f-11461=A;11480-114c1=A;114c4-114c5=A;114c7=A;114d0-114d9=A;11580-115b5=A;115b8-115be=",
      "A;115d8-115dd=A;11600-1163e=A;11640=A;11644=A;11650-11659=A;11680-116b5=A;116b8=A;116c0-116c9=A;",
      "11700-1171a=A;1171d-1172a=A;11730-1173b=A;11740-11746=A;11800-11838=A;118a0-118f2=A;118ff-11906=",
      "A;11909=A;1190c-11913=A;11915-11916=A;11918-11935=A;11937-11938=A;1193b-1193c=A;1193f-11942=A;11",
      "950-11959=A;119a0-119a7=A;119aa-119d7=A;119da-119df=A;119e1=A;119e3-119e4=A;11a00-11a32=A;11a35-",
      "11a3e=A;11a50-11a97=A;11a9d=A;11ab0-11af8=A;11c00-11c08=A;11c0a-11c36=A;11c38-11c3e=A;11c40=A;11",
      "c50-11c6c=A;11c72-11c8f=A;11c92-11ca7=A;11ca9-11cb6=A;11d00-11d06=A;11d08-11d09=A;11d0b-11d36=A;",
      "11d3a=A;11d3c-11d3d=A;11d3f-11d41=A;11d43=A;11d46-11d47=A;11d50-11d59=A;11d60-11d65=A;11d67-11d6",
      "8=A;11d6a-11d8e=A;11d90-11d91=A;11d93-11d96=A;11d98=A;11da0-11da9=A;11ee0-11ef6=A;11f00-11f10=A;",
      "11f12-11f3a=A;11f3e-11f40=A;11f50-11f59=A;11fb0=A;11fc0-11fd4=A;12000-12399=A;12400-1246e=A;1248",
      "0-12543=A;12f90-12ff0=A;13000-1342f=A;13441-13446=A;14400-14646=A;16800-16a38=A;16a40-16a5e=A;16",
      "a60-16a69=A;16a70-16abe=A;16ac0-16ac9=A;16ad0-16aed=A;16b00-16b2f=A;16b40-16b43=A;16b50-16b59=A;",
      "16b5b-16b61=A;16b63-16b77=A;16b7d-16b8f=A;16e40-16e96=A;16f00-16f4a=A;16f4f-16f87=A;16f8f-16f9f=",
      "A;16fe0-16fe1=A;16fe3=A;16ff0-16ff1=A;17000-187f7=A;18800-18cd5=A;18d00-18d08=A;1aff0-1aff3=A;1a",
      "ff5-1affb=A;1affd-1affe=A;1b000-1b122=A;1b132=A;1b150-1b152=A;1b155=A;1b164-1b167=A;1b170-1b2fb=",
      "A;1bc00-1bc6a=A;1bc70-1bc7c=A;1bc80-1bc88=A;1bc90-1bc99=A;1bc9e=A;1d2c0-1d2d3=A;1d2e0-1d2f3=A;1d",
      "360-1d378=A;1d400-1d454=A;1d456-1d49c=A;1d49e-1d49f=A;1d4a2=A;1d4a5-1d4a6=A;1d4a9-1d4ac=A;1d4ae-",
      "1d4b9=A;1d4bb=A;1d4bd-1d4c3=A;1d4c5-1d505=A;1d507-1d50a=A;1d50d-1d514=A;1d516-1d51c=A;1d51e-1d53",
      "9=A;1d53b-1d53e=A;1d540-1d544=A;1d546=A;1d54a-1d550=A;1d552-1d6a5=A;1d6a8-1d6c0=A;1d6c2-1d6da=A;",
      "1d6dc-1d6fa=A;1d6fc-1d714=A;1d716-1d734=A;1d736-1d74e=A;1d750-1d76e=A;1d770-1d788=A;1d78a-1d7a8=",
      "A;1d7aa-1d7c2=A;1d7c4-1d7cb=A;1d7ce-1d7ff=A;1df00-1df1e=A;1df25-1df2a=A;1e000-1e006=A;1e008-1e01",
      "8=A;1e01b-1e021=A;1e023-1e024=A;1e026-1e02a=A;1e030-1e06d=A;1e08f=A;1e100-1e12c=A;1e137-1e13d=A;",
      "1e140-1e149=A;1e14e=A;1e290-1e2ad=A;1e2c0-1e2eb=A;1e2f0-1e2f9=A;1e4d0-1e4eb=A;1e4f0-1e4f9=A;1e7e",
      "0-1e7e6=A;1e7e8-1e7eb=A;1e7ed-1e7ee=A;1e7f0-1e7fe=A;1e800-1e8c4=A;1e8c7-1e8cf=A;1e900-1e943=A;1e",
      "947=A;1e94b=A;1e950-1e959=A;1ec71-1ecab=A;1ecad-1ecaf=A;1ecb1-1ecb4=A;1ed01-1ed2d=A;1ed2f-1ed3d=",
      "A;1ee00-1ee03=A;1ee05-1ee1f=A;1ee21-1ee22=A;1ee24=A;1ee27=A;1ee29-1ee32=A;1ee34-1ee37=A;1ee39=A;",
      "1ee3b=A;1ee42=A;1ee47=A;1ee49=A;1ee4b=A;1ee4d-1ee4f=A;1ee51-1ee52=A;1ee54=A;1ee57=A;1ee59=A;1ee5",
      "b=A;1ee5d=A;1ee5f=A;1ee61-1ee62=A;1ee64=A;1ee67-1ee6a=A;1ee6c-1ee72=A;1ee74-1ee77=A;1ee79-1ee7c=",
      "A;1ee7e=A;1ee80-1ee89=A;1ee8b-1ee9b=A;1eea1-1eea3=A;1eea5-1eea9=A;1eeab-1eebb=A;1f100-1f10c=A;1f",
      "130-1f149=A;1f150-1f169=A;1f170-1f189=A;1fbf0-1fbf9=A;20000-2a6df=A;2a700-2b739=A;2b740-2b81d=A;",
      "2b820-2cea1=A;2ceb0-2ebe0=A;2f800-2fa1d=A;30000-3134a=A;31350-323af=A"]
end RepoRouting.Unicode
