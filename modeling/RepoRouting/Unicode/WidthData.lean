/-!
# Display width

Code points from U+0080 on whose display width in a terminal is not one column: `0` for
control characters, combining marks, format characters (the soft hyphen apart), the medial
and final Hangul jamo and the zero width space; `2` for wide and fullwidth characters (East
Asian Width `W` or `F`), unassigned code points of the ideograph blocks included.
-/

namespace RepoRouting.Unicode

/-- Widths other than one, as text. -/
def widthText : String :=
  String.join [
      "80-9f=0;300-36f=0;483-489=0;591-5bd=0;5bf=0;5c1-5c2=0;5c4-5c5=0;5c7=0;600-605=0;610-61a=0;61c=0;",
      "64b-65f=0;670=0;6d6-6dd=0;6df-6e4=0;6e7-6e8=0;6ea-6ed=0;70f=0;711=0;730-74a=0;7a6-7b0=0;7eb-7f3=",
      "0;7fd=0;816-819=0;81b-823=0;825-827=0;829-82d=0;859-85b=0;890-891=0;898-89f=0;8ca-902=0;93a=0;93",
      "c=0;941-948=0;94d=0;951-957=0;962-963=0;981=0;9bc=0;9c1-9c4=0;9cd=0;9e2-9e3=0;9fe=0;a01-a02=0;a3",
      "c=0;a41-a42=0;a47-a48=0;a4b-a4d=0;a51=0;a70-a71=0;a75=0;a81-a82=0;abc=0;ac1-ac5=0;ac7-ac8=0;acd=",
      "0;ae2-ae3=0;afa-aff=0;b01=0;b3c=0;b3f=0;b41-b44=0;b4d=0;b55-b56=0;b62-b63=0;b82=0;bc0=0;bcd=0;c0",
      "0=0;c04=0;c3c=0;c3e-c40=0;c46-c48=0;c4a-c4d=0;c55-c56=0;c62-c63=0;c81=0;cbc=0;cbf=0;cc6=0;ccc-cc",
      "d=0;ce2-ce3=0;d00-d01=0;d3b-d3c=0;d41-d44=0;d4d=0;d62-d63=0;d81=0;dca=0;dd2-dd4=0;dd6=0;e31=0;e3",
      "4-e3a=0;e47-e4e=0;eb1=0;eb4-ebc=0;ec8-ecd=0;f18-f19=0;f35=0;f37=0;f39=0;f71-f7e=0;f80-f84=0;f86-",
      "f87=0;f8d-f97=0;f99-fbc=0;fc6=0;102d-1030=0;1032-1037=0;1039-103a=0;103d-103e=0;1058-1059=0;105e",
      "-1060=0;1071-1074=0;1082=0;1085-1086=0;108d=0;109d=0;1100-115f=2;1160-11ff=0;135d-135f=0;1712-17",
      "14=0;1732-1733=0;1752-1753=0;1772-1773=0;17b4-17b5=0;17b7-17bd=0;17c6=0;17c9-17d3=0;17dd=0;180b-",
      "180f=0;1885-1886=0;18a9=0;1920-1922=0;1927-1928=0;1932=0;1939-193b=0;1a17-1a18=0;1a1b=0;1a56=0;1",
      "a58-1a5e=0;1a60=0;1a62=0;1a65-1a6c=0;1a73-1a7c=0;1a7f=0;1ab0-1ace=0;1b00-1b03=0;1b34=0;1b36-1b3a",
      "=0;1b3c=0;1b42=0;1b6b-1b73=0;1b80-1b81=0;1ba2-1ba5=0;1ba8-1ba9=0;1bab-1bad=0;1be6=0;1be8-1be9=0;",
      "1bed=0;1bef-1bf1=0;1c2c-1c33=0;1c36-1c37=0;1cd0-1cd2=0;1cd4-1ce0=0;1ce2-1ce8=0;1ced=0;1cf4=0;1cf",
      "8-1cf9=0;1dc0-1dff=0;200b-200f=0;202a-202e=0;2060-2064=0;2066-206f=0;20d0-20f0=0;231a-231b=2;232",
      "9-232a=2;23e9-23ec=2;23f0=2;23f3=2;25fd-25fe=2;2614-2615=2;2648-2653=2;267f=2;2693=2;26a1=2;26aa",
      "-26ab=2;26bd-26be=2;26c4-26c5=2;26ce=2;26d4=2;26ea=2;26f2-26f3=2;26f5=2;26fa=2;26fd=2;2705=2;270",
      "a-270b=2;2728=2;274c=2;274e=2;2753-2755=2;2757=2;2795-2797=2;27b0=2;27bf=2;2b1b-2b1c=2;2b50=2;2b",
      "55=2;2cef-2cf1=0;2d7f=0;2de0-2dff=0;2e80-2e99=2;2e9b-2ef3=2;2f00-2fd5=2;2ff0-2ffb=2;3000-3029=2;",
      "302a-302d=0;302e-303e=2;3041-3096=2;3099-309a=0;309b-30ff=2;3105-312f=2;3131-318e=2;3190-31e3=2;",
      "31f0-321e=2;3220-3247=2;3250-4dbf=2;4e00-a48c=2;a490-a4c6=2;a66f-a672=0;a674-a67d=0;a69e-a69f=0;",
      "a6f0-a6f1=0;a802=0;a806=0;a80b=0;a825-a826=0;a82c=0;a8c4-a8c5=0;a8e0-a8f1=0;a8ff=0;a926-a92d=0;a",
      "947-a951=0;a960-a97c=2;a980-a982=0;a9b3=0;a9b6-a9b9=0;a9bc-a9bd=0;a9e5=0;aa29-aa2e=0;aa31-aa32=0",
      ";aa35-aa36=0;aa43=0;aa4c=0;aa7c=0;aab0=0;aab2-aab4=0;aab7-aab8=0;aabe-aabf=0;aac1=0;aaec-aaed=0;",
      "aaf6=0;abe5=0;abe8=0;abed=0;ac00-d7a3=2;f900-faff=2;fb1e=0;fe00-fe0f=0;fe10-fe19=2;fe20-fe2f=0;f",
      "e30-fe52=2;fe54-fe66=2;fe68-fe6b=2;feff=0;ff01-ff60=2;ffe0-ffe6=2;fff9-fffb=0;101fd=0;102e0=0;10",
      "376-1037a=0;10a01-10a03=0;10a05-10a06=0;10a0c-10a0f=0;10a38-10a3a=0;10a3f=0;10ae5-10ae6=0;10d24-",
      "10d27=0;10eab-10eac=0;10f46-10f50=0;10f82-10f85=0;11001=0;11038-11046=0;11070=0;11073-11074=0;11",
      "07f-11081=0;110b3-110b6=0;110b9-110ba=0;110bd=0;110c2=0;110cd=0;11100-11102=0;11127-1112b=0;1112",
      "d-11134=0;11173=0;11180-11181=0;111b6-111be=0;111c9-111cc=0;111cf=0;1122f-11231=0;11234=0;11236-",
      "11237=0;1123e=0;112df=0;112e3-112ea=0;11300-11301=0;1133b-1133c=0;11340=0;11366-1136c=0;11370-11",
      "374=0;11438-1143f=0;11442-11444=0;11446=0;1145e=0;114b3-114b8=0;114ba=0;114bf-114c0=0;114c2-114c",
      "3=0;115b2-115b5=0;115bc-115bd=0;115bf-115c0=0;115dc-115dd=0;11633-1163a=0;1163d=0;1163f-11640=0;",
      "116ab=0;116ad=0;116b0-116b5=0;116b7=0;1171d-1171f=0;11722-11725=0;11727-1172b=0;1182f-11837=0;11",
      "839-1183a=0;1193b-1193c=0;1193e=0;11943=0;119d4-119d7=0;119da-119db=0;119e0=0;11a01-11a0a=0;11a3",
      "3-11a38=0;11a3b-11a3e=0;11a47=0;11a51-11a56=0;11a59-11a5b=0;11a8a-11a96=0;11a98-11a99=0;11c30-11",
      "c36=0;11c38-11c3d=0;11c3f=0;11c92-11ca7=0;11caa-11cb0=0;11cb2-11cb3=0;11cb5-11cb6=0;11d31-11d36=",
      "0;11d3a=0;11d3c-11d3d=0;11d3f-11d45=0;11d47=0;11d90-11d91=0;11d95=0;11d97=0;11ef3-11ef4=0;13430-",
      "13438=0;16af0-16af4=0;16b30-16b36=0;16f4f=0;16f8f-16f92=0;16fe0-16fe3=2;16fe4=0;16ff0-16ff1=2;17",
      "000-187f7=2;18800-18cd5=2;18d00-18d08=2;1aff0-1aff3=2;1aff5-1affb=2;1affd-1affe=2;1b000-1b122=2;",
      "1b150-1b152=2;1b164-1b167=2;1b170-1b2fb=2;1bc9d-1bc9e=0;1bca0-1bca3=0;1cf00-1cf2d=0;1cf30-1cf46=",
      "0;1d167-1d169=0;1d173-1d182=0;1d185-1d18b=0;1d1aa-1d1ad=0;1d242-1d244=0;1da00-1da36=0;1da3b-1da6",
      "c=0;1da75=0;1da84=0;1da9b-1da9f=0;1daa1-1daaf=0;1e000-1e006=0;1e008-1e018=0;1e01b-1e021=0;1e023-",
      "1e024=0;1e026-1e02a=0;1e130-1e136=0;1e2ae=0;1e2ec-1e2ef=0;1e8d0-1e8d6=0;1e944-1e94a=0;1f004=2;1f",
      "0cf=2;1f18e=2;1f191-1f19a=2;1f200-1f202=2;1f210-1f23b=2;1f240-1f248=2;1f250-1f251=2;1f260-1f265=",
      "2;1f300-1f320=2;1f32d-1f335=2;1f337-1f37c=2;1f37e-1f393=2;1f3a0-1f3ca=2;1f3cf-1f3d3=2;1f3e0-1f3f",
      "0=2;1f3f4=2;1f3f8-1f43e=2;1f440=2;1f442-1f4fc=2;1f4ff-1f53d=2;1f54b-1f54e=2;1f550-1f567=2;1f57a=",
      "2;1f595-1f596=2;1f5a4=2;1f5fb-1f64f=2;1f680-1f6c5=2;1f6cc=2;1f6d0-1f6d2=2;1f6d5-1f6d7=2;1f6dd-1f",
      "6df=2;1f6eb-1f6ec=2;1f6f4-1f6fc=2;1f7e0-1f7eb=2;1f7f0=2;1f90c-1f93a=2;1f93c-1f945=2;1f947-1f9ff=",
      "2;1fa70-1fa74=2;1fa78-1fa7c=2;1fa80-1fa86=2;1fa90-1faac=2;1fab0-1faba=2;1fac0-1fac5=2;1fad0-1fad",
      "9=2;1fae0-1fae7=2;1faf0-1faf6=2;20000-2fffd=2;30000-3fffd=2;e0001=0;e0020-e007f=0;e0100-e01ef=0"]

end RepoRouting.Unicode
