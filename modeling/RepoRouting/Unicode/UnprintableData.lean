/-!
# Characters that do not print on their own

The code points that quoted text writes as numbered escapes: those that extend the grapheme
before them (combining marks and the like), the separators other than the space, controls,
format characters, surrogates, private use and unassigned code points.
-/

namespace RepoRouting.Unicode

/-- The code points that do not print on their own, as text. -/
def unprintableText : String :=
  String.join [
    "0-1f=E;7f-a0=E;ad=E;300-36f=E;378-379=E;380-383=E;38b=E;38d=E;3a2=E;483-489=E;530=E;557-558=E;58",
    "b-58c=E;590-5bd=E;5bf=E;5c1-5c2=E;5c4-5c5=E;5c7-5cf=E;5eb-5ee=E;5f5-605=E;610-61a=E;61c=E;64b-65",
    "f=E;670=E;6d6-6dd=E;6df-6e4=E;6e7-6e8=E;6ea-6ed=E;70e-70f=E;711=E;730-74c=E;7a6-7b0=E;7b2-7bf=E;",
    "7eb-7f3=E;7fb-7fd=E;816-819=E;81b-823=E;825-827=E;829-82f=E;83f=E;859-85d=E;85f=E;86b-86f=E;88f-",
    "89f=E;8ca-902=E;93a=E;93c=E;941-948=E;94d=E;951-957=E;962-963=E;981=E;984=E;98d-98e=E;991-992=E;",
    "9a9=E;9b1=E;9b3-9b5=E;9ba-9bc=E;9be=E;9c1-9c6=E;9c9-9ca=E;9cd=E;9cf-9db=E;9de=E;9e2-9e5=E;9fe-a0",
    "2=E;a04=E;a0b-a0e=E;a11-a12=E;a29=E;a31=E;a34=E;a37=E;a3a-a3d=E;a41-a58=E;a5d=E;a5f-a65=E;a70-a7",
    "1=E;a75=E;a77-a82=E;a84=E;a8e=E;a92=E;aa9=E;ab1=E;ab4=E;aba-abc=E;ac1-ac8=E;aca=E;acd-acf=E;ad1-",
    "adf=E;ae2-ae5=E;af2-af8=E;afa-b01=E;b04=E;b0d-b0e=E;b11-b12=E;b29=E;b31=E;b34=E;b3a-b3c=E;b3e-b3",
    "f=E;b41-b46=E;b49-b4a=E;b4d-b5b=E;b5e=E;b62-b65=E;b78-b82=E;b84=E;b8b-b8d=E;b91=E;b96-b98=E;b9b=",
    "E;b9d=E;ba0-ba2=E;ba5-ba7=E;bab-bad=E;bba-bbe=E;bc0=E;bc3-bc5=E;bc9=E;bcd-bcf=E;bd1-be5=E;bfb-c0",
    "0=E;c04=E;c0d=E;c11=E;c29=E;c3a-c3c=E;c3e-c40=E;c45-c57=E;c5b-c5c=E;c5e-c5f=E;c62-c65=E;c70-c76=",
    "E;c81=E;c8d=E;c91=E;ca9=E;cb4=E;cba-cbc=E;cbf=E;cc2=E;cc5-cc6=E;cc9=E;ccc-cdc=E;cdf=E;ce2-ce5=E;",
    "cf0=E;cf4-d01=E;d0d=E;d11=E;d3b-d3c=E;d3e=E;d41-d45=E;d49=E;d4d=E;d50-d53=E;d57=E;d62-d65=E;d80-",
    "d81=E;d84=E;d97-d99=E;db2=E;dbc=E;dbe-dbf=E;dc7-dcf=E;dd2-dd7=E;ddf-de5=E;df0-df1=E;df5-e00=E;e3",
    "1=E;e34-e3e=E;e47-e4e=E;e5c-e80=E;e83=E;e85=E;e8b=E;ea4=E;ea6=E;eb1=E;eb4-ebc=E;ebe-ebf=E;ec5=E;",
    "ec7-ecf=E;eda-edb=E;ee0-eff=E;f18-f19=E;f35=E;f37=E;f39=E;f48=E;f6d-f7e=E;f80-f84=E;f86-f87=E;f8",
    "d-fbd=E;fc6=E;fcd=E;fdb-fff=E;102d-1030=E;1032-1037=E;1039-103a=E;103d-103e=E;1058-1059=E;105e-1",
    "060=E;1071-1074=E;1082=E;1085-1086=E;108d=E;109d=E;10c6=E;10c8-10cc=E;10ce-10cf=E;1249=E;124e-12",
    "4f=E;1257=E;1259=E;125e-125f=E;1289=E;128e-128f=E;12b1=E;12b6-12b7=E;12bf=E;12c1=E;12c6-12c7=E;1",
    "2d7=E;1311=E;1316-1317=E;135b-135f=E;137d-137f=E;139a-139f=E;13f6-13f7=E;13fe-13ff=E;1680=E;169d",
    "-169f=E;16f9-16ff=E;1712-1714=E;1716-171e=E;1732-1733=E;1737-173f=E;1752-175f=E;176d=E;1771-177f",
    "=E;17b4-17b5=E;17b7-17bd=E;17c6=E;17c9-17d3=E;17dd-17df=E;17ea-17ef=E;17fa-17ff=E;180b-180f=E;18",
    "1a-181f=E;1879-187f=E;1885-1886=E;18a9=E;18ab-18af=E;18f6-18ff=E;191f-1922=E;1927-1928=E;192c-19",
    "2f=E;1932=E;1939-193f=E;1941-1943=E;196e-196f=E;1975-197f=E;19ac-19af=E;19ca-19cf=E;19db-19dd=E;",
    "1a17-1a18=E;1a1b-1a1d=E;1a56=E;1a58-1a60=E;1a62=E;1a65-1a6c=E;1a73-1a7f=E;1a8a-1a8f=E;1a9a-1a9f=",
    "E;1aae-1b03=E;1b34-1b3a=E;1b3c=E;1b42=E;1b4d-1b4f=E;1b6b-1b73=E;1b7f-1b81=E;1ba2-1ba5=E;1ba8-1ba",
    "9=E;1bab-1bad=E;1be6=E;1be8-1be9=E;1bed=E;1bef-1bf1=E;1bf4-1bfb=E;1c2c-1c33=E;1c36-1c3a=E;1c4a-1",
    "c4c=E;1c89-1c8f=E;1cbb-1cbc=E;1cc8-1cd2=E;1cd4-1ce0=E;1ce2-1ce8=E;1ced=E;1cf4=E;1cf8-1cf9=E;1cfb",
    "-1cff=E;1dc0-1dff=E;1f16-1f17=E;1f1e-1f1f=E;1f46-1f47=E;1f4e-1f4f=E;1f58=E;1f5a=E;1f5c=E;1f5e=E;",
    "1f7e-1f7f=E;1fb5=E;1fc5=E;1fd4-1fd5=E;1fdc=E;1ff0-1ff1=E;1ff5=E;1fff-200f=E;2028-202f=E;205f-206",
    "f=E;2072-2073=E;208f=E;209d-209f=E;20c1-20ff=E;218c-218f=E;2427-243f=E;244b-245f=E;2b74-2b75=E;2",
    "b96=E;2cef-2cf1=E;2cf4-2cf8=E;2d26=E;2d28-2d2c=E;2d2e-2d2f=E;2d68-2d6e=E;2d71-2d7f=E;2d97-2d9f=E",
    ";2da7=E;2daf=E;2db7=E;2dbf=E;2dc7=E;2dcf=E;2dd7=E;2ddf-2dff=E;2e5e-2e7f=E;2e9a=E;2ef4-2eff=E;2fd",
    "6-2fef=E;2ffc-3000=E;302a-302f=E;3040=E;3097-309a=E;3100-3104=E;3130=E;318f=E;31e4-31ef=E;321f=E",
    ";a48d-a48f=E;a4c7-a4cf=E;a62c-a63f=E;a66f-a672=E;a674-a67d=E;a69e-a69f=E;a6f0-a6f1=E;a6f8-a6ff=E",
    ";a7cb-a7cf=E;a7d2=E;a7d4=E;a7da-a7f1=E;a802=E;a806=E;a80b=E;a825-a826=E;a82c-a82f=E;a83a-a83f=E;",
    "a878-a87f=E;a8c4-a8cd=E;a8da-a8f1=E;a8ff=E;a926-a92d=E;a947-a951=E;a954-a95e=E;a97d-a982=E;a9b3=",
    "E;a9b6-a9b9=E;a9bc-a9bd=E;a9ce=E;a9da-a9dd=E;a9e5=E;a9ff=E;aa29-aa2e=E;aa31-aa32=E;aa35-aa3f=E;a",
    "a43=E;aa4c=E;aa4e-aa4f=E;aa5a-aa5b=E;aa7c=E;aab0=E;aab2-aab4=E;aab7-aab8=E;aabe-aabf=E;aac1=E;aa",
    "c3-aada=E;aaec-aaed=E;aaf6-ab00=E;ab07-ab08=E;ab0f-ab10=E;ab17-ab1f=E;ab27=E;ab2f=E;ab6c-ab6f=E;",
    "abe5=E;abe8=E;abed-abef=E;abfa-abff=E;d7a4-d7af=E;d7c7-d7ca=E;d7fc-f8ff=E;fa6e-fa6f=E;fada-faff=",
    "E;fb07-fb12=E;fb18-fb1c=E;fb1e=E;fb37=E;fb3d=E;fb3f=E;fb42=E;fb45=E;fbc3-fbd2=E;fd90-fd91=E;fdc8",
    "-fdce=E;fdd0-fdef=E;fe00-fe0f=E;fe1a-fe2f=E;fe53=E;fe67=E;fe6c-fe6f=E;fe75=E;fefd-ff00=E;ff9e-ff",
    "9f=E;ffbf-ffc1=E;ffc8-ffc9=E;ffd0-ffd1=E;ffd8-ffd9=E;ffdd-ffdf=E;ffe7=E;ffef-fffb=E;fffe-ffff=E;",
    "1000c=E;10027=E;1003b=E;1003e=E;1004e-1004f=E;1005e-1007f=E;100fb-100ff=E;10103-10106=E;10134-10",
    "136=E;1018f=E;1019d-1019f=E;101a1-101cf=E;101fd-1027f=E;1029d-1029f=E;102d1-102e0=E;102fc-102ff=",
    "E;10324-1032c=E;1034b-1034f=E;10376-1037f=E;1039e=E;103c4-103c7=E;103d6-103ff=E;1049e-1049f=E;10",
    "4aa-104af=E;104d4-104d7=E;104fc-104ff=E;10528-1052f=E;10564-1056e=E;1057b=E;1058b=E;10593=E;1059",
    "6=E;105a2=E;105b2=E;105ba=E;105bd-105ff=E;10737-1073f=E;10756-1075f=E;10768-1077f=E;10786=E;107b",
    "1=E;107bb-107ff=E;10806-10807=E;10809=E;10836=E;10839-1083b=E;1083d-1083e=E;10856=E;1089f-108a6=",
    "E;108b0-108df=E;108f3=E;108f6-108fa=E;1091c-1091e=E;1093a-1093e=E;10940-1097f=E;109b8-109bb=E;10",
    "9d0-109d1=E;10a01-10a0f=E;10a14=E;10a18=E;10a36-10a3f=E;10a49-10a4f=E;10a59-10a5f=E;10aa0-10abf=",
    "E;10ae5-10aea=E;10af7-10aff=E;10b36-10b38=E;10b56-10b57=E;10b73-10b77=E;10b92-10b98=E;10b9d-10ba",
    "8=E;10bb0-10bff=E;10c49-10c7f=E;10cb3-10cbf=E;10cf3-10cf9=E;10d24-10d2f=E;10d3a-10e5f=E;10e7f=E;",
    "10eaa-10eac=E;10eae-10eaf=E;10eb2-10eff=E;10f28-10f2f=E;10f46-10f50=E;10f5a-10f6f=E;10f82-10f85=",
    "E;10f8a-10faf=E;10fcc-10fdf=E;10ff7-10fff=E;11001=E;11038-11046=E;1104e-11051=E;11070=E;11073-11",
    "074=E;11076-11081=E;110b3-110b6=E;110b9-110ba=E;110bd=E;110c2-110cf=E;110e9-110ef=E;110fa-11102=",
    "E;11127-1112b=E;1112d-11135=E;11148-1114f=E;11173=E;11177-11181=E;111b6-111be=E;111c9-111cc=E;11",
    "1cf=E;111e0=E;111f5-111ff=E;11212=E;1122f-11231=E;11234=E;11236-11237=E;1123e=E;11241-1127f=E;11",
    "287=E;11289=E;1128e=E;1129e=E;112aa-112af=E;112df=E;112e3-112ef=E;112fa-11301=E;11304=E;1130d-11",
    "30e=E;11311-11312=E;11329=E;11331=E;11334=E;1133a-1133c=E;1133e=E;11340=E;11345-11346=E;11349-11",
    "34a=E;1134e-1134f=E;11351-1135c=E;11364-113ff=E;11438-1143f=E;11442-11444=E;11446=E;1145c=E;1145",
    "e=E;11462-1147f=E;114b0=E;114b3-114b8=E;114ba=E;114bd=E;114bf-114c0=E;114c2-114c3=E;114c8-114cf=",
    "E;114da-1157f=E;115af=E;115b2-115b7=E;115bc-115bd=E;115bf-115c0=E;115dc-115ff=E;11633-1163a=E;11",
    "63d=E;1163f-11640=E;11645-1164f=E;1165a-1165f=E;1166d-1167f=E;116ab=E;116ad=E;116b0-116b5=E;116b",
    "7=E;116ba-116bf=E;116ca-116ff=E;1171b-1171f=E;11722-11725=E;11727-1172f=E;11747-117ff=E;1182f-11",
    "837=E;11839-1183a=E;1183c-1189f=E;118f3-118fe=E;11907-11908=E;1190a-1190b=E;11914=E;11917=E;1193",
    "0=E;11936=E;11939-1193c=E;1193e=E;11943=E;11947-1194f=E;1195a-1199f=E;119a8-119a9=E;119d4-119db=",
    "E;119e0=E;119e5-119ff=E;11a01-11a0a=E;11a33-11a38=E;11a3b-11a3e=E;11a47-11a4f=E;11a51-11a56=E;11",
    "a59-11a5b=E;11a8a-11a96=E;11a98-11a99=E;11aa3-11aaf=E;11af9-11aff=E;11b0a-11bff=E;11c09=E;11c30-",
    "11c3d=E;11c3f=E;11c46-11c4f=E;11c6d-11c6f=E;11c90-11ca8=E;11caa-11cb0=E;11cb2-11cb3=E;11cb5-11cf",
    "f=E;11d07=E;11d0a=E;11d31-11d45=E;11d47-11d4f=E;11d5a-11d5f=E;11d66=E;11d69=E;11d8f-11d92=E;11d9",
    "5=E;11d97=E;11d99-11d9f=E;11daa-11edf=E;11ef3-11ef4=E;11ef9-11f01=E;11f11=E;11f36-11f3d=E;11f40=",
    "E;11f42=E;11f5a-11faf=E;11fb1-11fbf=E;11ff2-11ffe=E;1239a-123ff=E;1246f=E;12475-1247f=E;12544-12",
    "f8f=E;12ff3-12fff=E;13430-13440=E;13447-143ff=E;14647-167ff=E;16a39-16a3f=E;16a5f=E;16a6a-16a6d=",
    "E;16abf=E;16aca-16acf=E;16aee-16af4=E;16af6-16aff=E;16b30-16b36=E;16b46-16b4f=E;16b5a=E;16b62=E;",
    "16b78-16b7c=E;16b90-16e3f=E;16e9b-16eff=E;16f4b-16f4f=E;16f88-16f92=E;16fa0-16fdf=E;16fe4-16fef=",
    "E;16ff2-16fff=E;187f8-187ff=E;18cd6-18cff=E;18d09-1afef=E;1aff4=E;1affc=E;1afff=E;1b123-1b131=E;",
    "1b133-1b14f=E;1b153-1b154=E;1b156-1b163=E;1b168-1b16f=E;1b2fc-1bbff=E;1bc6b-1bc6f=E;1bc7d-1bc7f=",
    "E;1bc89-1bc8f=E;1bc9a-1bc9b=E;1bc9d-1bc9e=E;1bca0-1cf4f=E;1cfc4-1cfff=E;1d0f6-1d0ff=E;1d127-1d12",
    "8=E;1d165=E;1d167-1d169=E;1d16e-1d182=E;1d185-1d18b=E;1d1aa-1d1ad=E;1d1eb-1d1ff=E;1d242-1d244=E;",
    "1d246-1d2bf=E;1d2d4-1d2df=E;1d2f4-1d2ff=E;1d357-1d35f=E;1d379-1d3ff=E;1d455=E;1d49d=E;1d4a0-1d4a",
    "1=E;1d4a3-1d4a4=E;1d4a7-1d4a8=E;1d4ad=E;1d4ba=E;1d4bc=E;1d4c4=E;1d506=E;1d50b-1d50c=E;1d515=E;1d",
    "51d=E;1d53a=E;1d53f=E;1d545=E;1d547-1d549=E;1d551=E;1d6a6-1d6a7=E;1d7cc-1d7cd=E;1da00-1da36=E;1d",
    "a3b-1da6c=E;1da75=E;1da84=E;1da8c-1deff=E;1df1f-1df24=E;1df2b-1e02f=E;1e06e-1e0ff=E;1e12d-1e136=",
    "E;1e13e-1e13f=E;1e14a-1e14d=E;1e150-1e28f=E;1e2ae-1e2bf=E;1e2ec-1e2ef=E;1e2fa-1e2fe=E;1e300-1e4c",
    "f=E;1e4ec-1e4ef=E;1e4fa-1e7df=E;1e7e7=E;1e7ec=E;1e7ef=E;1e7ff=E;1e8c5-1e8c6=E;1e8d0-1e8ff=E;1e94",
    "4-1e94a=E;1e94c-1e94f=E;1e95a-1e95d=E;1e960-1ec70=E;1ecb5-1ed00=E;1ed3e-1edff=E;1ee04=E;1ee20=E;",
    "1ee23=E;1ee25-1ee26=E;1ee28=E;1ee33=E;1ee38=E;1ee3a=E;1ee3c-1ee41=E;1ee43-1ee46=E;1ee48=E;1ee4a=",
    "E;1ee4c=E;1ee50=E;1ee53=E;1ee55-1ee56=E;1ee58=E;1ee5a=E;1ee5c=E;1ee5e=E;1ee60=E;1ee63=E;1ee65-1e",
    "e66=E;1ee6b=E;1ee73=E;1ee78=E;1ee7d=E;1ee7f=E;1ee8a=E;1ee9c-1eea0=E;1eea4=E;1eeaa=E;1eebc-1eeef=",
    "E;1eef2-1efff=E;1f02c-1f02f=E;1f094-1f09f=E;1f0af-1f0b0=E;1f0c0=E;1f0d0=E;1f0f6-1f0ff=E;1f1ae-1f",
    "1e5=E;1f203-1f20f=E;1f23c-1f23f=E;1f249-1f24f=E;1f252-1f25f=E;1f266-1f2ff=E;1f6d8-1f6db=E;1f6ed-",
    "1f6ef=E;1f6fd-1f6ff=E;1f777-1f77a=E;1f7da-1f7df=E;1f7ec-1f7ef=E;1f7f1-1f7ff=E;1f80c-1f80f=E;1f84",
    "8-1f84f=E;1f85a-1f85f=E;1f888-1f88f=E;1f8ae-1f8af=E;1f8b2-1f8ff=E;1fa54-1fa5f=E;1fa6e-1fa6f=E;1f",
    "a7d-1fa7f=E;1fa89-1fa8f=E;1fabe=E;1fac6-1facd=E;1fadc-1fadf=E;1fae9-1faef=E;1faf9-1faff=E;1fb93=",
    "E;1fbcb-1fbef=E;1fbfa-1ffff=E;2a6e0-2a6ff=E;2b73a-2b73f=E;2b81e-2b81f=E;2cea2-2ceaf=E;2ebe1-2f7f",
    "f=E;2fa1e-2ffff=E;3134b-3134f=E;323b0-10ffff=E"]

end RepoRouting.Unicode
