/-!
# Combining marks and viramas

Code points of general category Mark (`M`), and the viramas (`V`): marks with canonical
combining class 9, which allow a zero width joiner or non-joiner after them.
-/

namespace RepoRouting.Unicode

/-- Marks and viramas as text. -/
def markText : String :=
  String.join [
    "300-36f=M;483-489=M;591-5bd=M;5bf=M;5c1-5c2=M;5c4-5c5=M;5c7=M;610-61a=M;64b-65f=M;670=M;6d6-6dc=",
    "M;6df-6e4=M;6e7-6e8=M;6ea-6ed=M;711=M;730-74a=M;7a6-7b0=M;7eb-7f3=M;7fd=M;816-819=M;81b-823=M;82",
    "5-827=M;829-82d=M;859-85b=M;898-89f=M;8ca-8e1=M;8e3-903=M;93a-93c=M;93e-94c=M;94d=V;94e-94f=M;95",
    "1-957=M;962-963=M;981-983=M;9bc=M;9be-9c4=M;9c7-9c8=M;9cb-9cc=M;9cd=V;9d7=M;9e2-9e3=M;9fe=M;a01-",
    "a03=M;a3c=M;a3e-a42=M;a47-a48=M;a4b-a4c=M;a4d=V;a51=M;a70-a71=M;a75=M;a81-a83=M;abc=M;abe-ac5=M;",
    "ac7-ac9=M;acb-acc=M;acd=V;ae2-ae3=M;afa-aff=M;b01-b03=M;b3c=M;b3e-b44=M;b47-b48=M;b4b-b4c=M;b4d=",
    "V;b55-b57=M;b62-b63=M;b82=M;bbe-bc2=M;bc6-bc8=M;bca-bcc=M;bcd=V;bd7=M;c00-c04=M;c3c=M;c3e-c44=M;",
    "c46-c48=M;c4a-c4c=M;c4d=V;c55-c56=M;c62-c63=M;c81-c83=M;cbc=M;cbe-cc4=M;cc6-cc8=M;cca-ccc=M;ccd=",
    "V;cd5-cd6=M;ce2-ce3=M;d00-d03=M;d3b-d3c=V;d3e-d44=M;d46-d48=M;d4a-d4c=M;d4d=V;d57=M;d62-d63=M;d8",
    "1-d83=M;dca=V;dcf-dd4=M;dd6=M;dd8-ddf=M;df2-df3=M;e31=M;e34-e39=M;e3a=V;e47-e4e=M;eb1=M;eb4-eb9=",
    "M;eba=V;ebb-ebc=M;ec8-ecd=M;f18-f19=M;f35=M;f37=M;f39=M;f3e-f3f=M;f71-f83=M;f84=V;f86-f87=M;f8d-",
    "f97=M;f99-fbc=M;fc6=M;102b-1038=M;1039-103a=V;103b-103e=M;1056-1059=M;105e-1060=M;1062-1064=M;10",
    "67-106d=M;1071-1074=M;1082-108d=M;108f=M;109a-109d=M;135d-135f=M;1712-1713=M;1714-1715=V;1732-17",
    "33=M;1734=V;1752-1753=M;1772-1773=M;17b4-17d1=M;17d2=V;17d3=M;17dd=M;180b-180d=M;180f=M;1885-188",
    "6=M;18a9=M;1920-192b=M;1930-193b=M;1a17-1a1b=M;1a55-1a5e=M;1a60=V;1a61-1a7c=M;1a7f=M;1ab0-1ace=M",
    ";1b00-1b04=M;1b34-1b43=M;1b44=V;1b6b-1b73=M;1b80-1b82=M;1ba1-1ba9=M;1baa-1bab=V;1bac-1bad=M;1be6",
    "-1bf1=M;1bf2-1bf3=V;1c24-1c37=M;1cd0-1cd2=M;1cd4-1ce8=M;1ced=M;1cf4=M;1cf7-1cf9=M;1dc0-1dff=M;20",
    "d0-20f0=M;2cef-2cf1=M;2d7f=V;2de0-2dff=M;302a-302f=M;3099-309a=M;a66f-a672=M;a674-a67d=M;a69e-a6",
    "9f=M;a6f0-a6f1=M;a802=M;a806=V;a80b=M;a823-a827=M;a82c=V;a880-a881=M;a8b4-a8c3=M;a8c4=V;a8c5=M;a",
    "8e0-a8f1=M;a8ff=M;a926-a92d=M;a947-a952=M;a953=V;a980-a983=M;a9b3-a9bf=M;a9c0=V;a9e5=M;aa29-aa36",
    "=M;aa43=M;aa4c-aa4d=M;aa7b-aa7d=M;aab0=M;aab2-aab4=M;aab7-aab8=M;aabe-aabf=M;aac1=M;aaeb-aaef=M;",
    "aaf5=M;aaf6=V;abe3-abea=M;abec=M;abed=V;fb1e=M;fe00-fe0f=M;fe20-fe2f=M;101fd=M;102e0=M;10376-103",
    "7a=M;10a01-10a03=M;10a05-10a06=M;10a0c-10a0f=M;10a38-10a3a=M;10a3f=V;10ae5-10ae6=M;10d24-10d27=M",
    ";10eab-10eac=M;10f46-10f50=M;10f82-10f85=M;11000-11002=M;11038-11045=M;11046=V;11070=V;11073-110",
    "74=M;1107f=V;11080-11082=M;110b0-110b8=M;110b9=V;110ba=M;110c2=M;11100-11102=M;11127-11132=M;111",
    "33-11134=V;11145-11146=M;11173=M;11180-11182=M;111b3-111bf=M;111c0=V;111c9-111cc=M;111ce-111cf=M",
    ";1122c-11234=M;11235=V;11236-11237=M;1123e=M;112df-112e9=M;112ea=V;11300-11303=M;1133b-1133c=M;1",
    "133e-11344=M;11347-11348=M;1134b-1134c=M;1134d=V;11357=M;11362-11363=M;11366-1136c=M;11370-11374",
    "=M;11435-11441=M;11442=V;11443-11446=M;1145e=M;114b0-114c1=M;114c2=V;114c3=M;115af-115b5=M;115b8",
    "-115be=M;115bf=V;115c0=M;115dc-115dd=M;11630-1163e=M;1163f=V;11640=M;116ab-116b5=M;116b6=V;116b7",
    "=M;1171d-1172a=M;1172b=V;1182c-11838=M;11839=V;1183a=M;11930-11935=M;11937-11938=M;1193b-1193c=M",
    ";1193d-1193e=V;11940=M;11942-11943=M;119d1-119d7=M;119da-119df=M;119e0=V;119e4=M;11a01-11a0a=M;1",
    "1a33=M;11a34=V;11a35-11a39=M;11a3b-11a3e=M;11a47=V;11a51-11a5b=M;11a8a-11a98=M;11a99=V;11c2f-11c",
    "36=M;11c38-11c3e=M;11c3f=V;11c92-11ca7=M;11ca9-11cb6=M;11d31-11d36=M;11d3a=M;11d3c-11d3d=M;11d3f",
    "-11d43=M;11d44-11d45=V;11d47=M;11d8a-11d8e=M;11d90-11d91=M;11d93-11d96=M;11d97=V;11ef3-11ef6=M;1",
    "6af0-16af4=M;16b30-16b36=M;16f4f=M;16f51-16f87=M;16f8f-16f92=M;16fe4=M;16ff0-16ff1=M;1bc9d-1bc9e",
    "=M;1cf00-1cf2d=M;1cf30-1cf46=M;1d165-1d169=M;1d16d-1d172=M;1d17b-1d182=M;1d185-1d18b=M;1d1aa-1d1",
    "ad=M;1d242-1d244=M;1da00-1da36=M;1da3b-1da6c=M;1da75=M;1da84=M;1da9b-1da9f=M;1daa1-1daaf=M;1e000",
    "-1e006=M;1e008-1e018=M;1e01b-1e021=M;1e023-1e024=M;1e026-1e02a=M;1e130-1e136=M;1e2ae=M;1e2ec-1e2",
    "ef=M;1e8d0-1e8d6=M;1e944-1e94a=M;e0100-e01ef=M"]

end RepoRouting.Unicode
