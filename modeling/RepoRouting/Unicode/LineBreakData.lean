/-!
# Line break classes

The line breaking class of code points from U+0080 on, as two-letter codes of the line
breaking algorithm (`CM`, `GL`, `BA`, `OP`, `ID`, …), with the classes that the algorithm
resolves first already resolved: ambiguous and unknown characters are alphabetic, conditional
Japanese starters are nonstarters, and characters of Southeast Asian scripts are combining
marks when they are marks and alphabetic otherwise. Opening punctuation that is wide (East
Asian Width `W`, `F` or `H`) has its own code `OW`, and the zero width joiner is `ZJ`. Hangul
syllables are not listed: their class follows from their code point. Any other code point
that is not listed is alphabetic.
-/

namespace RepoRouting.Unicode

/-- Line break classes other than alphabetic, as text. -/
def lineBreakText : String :=
  String.join [
      "80-84=CM;85=NL;86-9f=CM;a0=GL;a1=OP;a2=PO;a3-a5=PR;ab=QU;ad=BA;b0=PO;b1=PR;b4=BB;bb=QU;bf=OP;300",
      "-34e=CM;34f=GL;350-36f=CM;483-489=CM;589=IS;58a=BA;58f=PR;591-5bd=CM;5be=BA;5bf=CM;5c1-5c2=CM;5c",
      "4-5c5=CM;5c7=CM;5d0-5ea=HL;5ef-5f2=HL;600-605=CM;60b=PR;60c-60d=IS;610-61a=CM;61c=CM;64b-65f=CM;",
      "660-669=NU;670=CM;6d6-6dd=CM;6df-6e4=CM;6e7-6e8=CM;6ea-6ed=CM;6f0-6f9=NU;70f=CM;711=CM;730-74a=C",
      "M;7a6-7b0=CM;7c0-7c9=NU;7eb-7f3=CM;7f8=IS;7fd=CM;7fe-7ff=PR;816-819=CM;81b-823=CM;825-827=CM;829",
      "-82d=CM;859-85b=CM;890-891=CM;898-89f=CM;8ca-903=CM;93a-93c=CM;93e-94f=CM;951-957=CM;962-963=CM;",
      "966-96f=NU;981-983=CM;9bc=CM;9be-9c4=CM;9c7-9c8=CM;9cb-9cd=CM;9d7=CM;9e2-9e3=CM;9e6-9ef=NU;9f2-9",
      "f3=PR;9fb=PR;9fe=CM;a01-a03=CM;a3c=CM;a3e-a42=CM;a47-a48=CM;a4b-a4d=CM;a51=CM;a66-a6f=NU;a70-a71",
      "=CM;a75=CM;a81-a83=CM;abc=CM;abe-ac5=CM;ac7-ac9=CM;acb-acd=CM;ae2-ae3=CM;ae6-aef=NU;af1=PR;afa-a",
      "ff=CM;b01-b03=CM;b3c=CM;b3e-b44=CM;b47-b48=CM;b4b-b4d=CM;b55-b57=CM;b62-b63=CM;b66-b6f=NU;b82=CM",
      ";bbe-bc2=CM;bc6-bc8=CM;bca-bcd=CM;bd7=CM;be6-bef=NU;bf9=PR;c00-c04=CM;c3c=CM;c3e-c44=CM;c46-c48=",
      "CM;c4a-c4d=CM;c55-c56=CM;c62-c63=CM;c66-c6f=NU;c81-c83=CM;cbc=CM;cbe-cc4=CM;cc6-cc8=CM;cca-ccd=C",
      "M;cd5-cd6=CM;ce2-ce3=CM;ce6-cef=NU;d00-d03=CM;d3b-d3c=CM;d3e-d44=CM;d46-d48=CM;d4a-d4d=CM;d57=CM",
      ";d62-d63=CM;d66-d6f=NU;d81-d83=CM;dca=CM;dcf-dd4=CM;dd6=CM;dd8-ddf=CM;de6-def=NU;df2-df3=CM;e31=",
      "CM;e34-e3a=CM;e3f=PR;e47-e4e=CM;e50-e59=NU;eb1=CM;eb4-ebc=CM;ec8-ecd=CM;ed0-ed9=NU;f01-f04=BB;f0",
      "6-f07=BB;f09-f0a=BB;f0b=BA;f0c=GL;f18-f19=CM;f20-f29=NU;f35=CM;f37=CM;f39=CM;f3a=OP;f3b=CL;f3c=O",
      "P;f3d=CL;f3e-f3f=CM;f71-f84=CM;f86-f87=CM;f8d-f97=CM;f99-fbc=CM;fc6=CM;fd0-fd1=BB;fd3=BB;102b-10",
      "3e=CM;1040-1049=NU;1056-1059=CM;105e-1060=CM;1062-1064=CM;1067-106d=CM;1071-1074=CM;1082-108d=CM",
      ";108f=CM;1090-1099=NU;109a-109d=CM;1100-115f=JL;1160-11a7=JV;11a8-11ff=JT;135d-135f=CM;1400=BA;1",
      "680=BA;169b=OP;169c=CL;1712-1715=CM;1732-1734=CM;1752-1753=CM;1772-1773=CM;17b4-17d3=CM;17db=PR;",
      "17dd=CM;17e0-17e9=NU;1806=BB;180b-180d=CM;180e=GL;180f=CM;1810-1819=NU;1885-1886=CM;18a9=CM;1920",
      "-192b=CM;1930-193b=CM;1946-194f=NU;19d0-19d9=NU;1a17-1a1b=CM;1a55-1a5e=CM;1a60-1a7c=CM;1a7f=CM;1",
      "a80-1a89=NU;1a90-1a99=NU;1ab0-1ace=CM;1b00-1b04=CM;1b34-1b44=CM;1b50-1b59=NU;1b6b-1b73=CM;1b80-1",
      "b82=CM;1ba1-1bad=CM;1bb0-1bb9=NU;1be6-1bf3=CM;1c24-1c37=CM;1c40-1c49=NU;1c50-1c59=NU;1cd0-1cd2=C",
      "M;1cd4-1ce8=CM;1ced=CM;1cf4=CM;1cf7-1cf9=CM;1dc0-1dff=CM;1ffd=BB;2000-2006=BA;2007=GL;2008-200a=",
      "BA;200b=ZW;200c=CM;200d=ZJ;200e-200f=CM;2010=BA;2011=GL;2012-2013=BA;2014=B2;2018-2019=QU;201a=O",
      "P;201b-201d=QU;201e=OP;201f=QU;2024-2026=IN;2027=BA;2028-2029=BK;202a-202e=CM;202f=GL;2030-2037=",
      "PO;2039-203a=QU;203c-203d=NS;2044=IS;2045=OP;2046=CL;2047-2049=NS;205f=BA;2060=WJ;2061-2064=CM;2",
      "066-206f=CM;207d=OP;207e=CL;208d=OP;208e=CL;20a0-20c0=PR;20d0-20f0=CM;2103=PO;2109=PO;2116=PR;22",
      "12-2213=PR;2308=OP;2309=CL;230a=OP;230b=CL;231a-231b=ID;2329=OW;232a=CL;23e9-23ec=ID;23f0=ID;23f",
      "3=ID;25fd-25fe=ID;2614-2615=ID;2648-2653=ID;267f=ID;2693=ID;26a1=ID;26aa-26ab=ID;26bd-26be=ID;26",
      "c4-26c5=ID;26ce=ID;26d4=ID;26ea=ID;26f2-26f3=ID;26f5=ID;26fa=ID;26fd=ID;2705=ID;270a-270b=ID;272",
      "8=ID;274c=ID;274e=ID;2753-2755=ID;2757=ID;2768=OP;2769=CL;276a=OP;276b=CL;276c=OP;276d=CL;276e=O",
      "P;276f=CL;2770=OP;2771=CL;2772=OP;2773=CL;2774=OP;2775=CL;2795-2797=ID;27b0=ID;27bf=ID;27c5=OP;2",
      "7c6=CL;27e6=OP;27e7=CL;27e8=OP;27e9=CL;27ea=OP;27eb=CL;27ec=OP;27ed=CL;27ee=OP;27ef=CL;2983=OP;2",
      "984=CL;2985=OP;2986=CL;2987=OP;2988=CL;2989=OP;298a=CL;298b=OP;298c=CL;298d=OP;298e=CL;298f=OP;2",
      "990=CL;2991=OP;2992=CL;2993=OP;2994=CL;2995=OP;2996=CL;2997=OP;2998=CL;29d8=OP;29d9=CL;29da=OP;2",
      "9db=CL;29fc=OP;29fd=CL;2b1b-2b1c=ID;2b50=ID;2b55=ID;2cef-2cf1=CM;2d7f=CM;2de0-2dff=CM;2e02-2e05=",
      "QU;2e09-2e0a=QU;2e0c-2e0d=QU;2e17=BA;2e1a=BA;2e1c-2e1d=QU;2e20-2e21=QU;2e22=OP;2e23=CL;2e24=OP;2",
      "e25=CL;2e26=OP;2e27=CL;2e28=OP;2e29=CL;2e3a-2e3b=B2;2e40=BA;2e42=OP;2e55=OP;2e56=CL;2e57=OP;2e58",
      "=CL;2e59=OP;2e5a=CL;2e5b=OP;2e5c=CL;2e5d=BA;2e80-2e99=ID;2e9b-2ef3=ID;2f00-2fd5=ID;2ff0-2ffb=ID;",
      "3000=BA;3001-3002=CL;3003-3004=ID;3005=NS;3006-3007=ID;3008=OW;3009=CL;300a=OW;300b=CL;300c=OW;3",
      "00d=CL;300e=OW;300f=CL;3010=OW;3011=CL;3012-3013=ID;3014=OW;3015=CL;3016=OW;3017=CL;3018=OW;3019",
      "=CL;301a=OW;301b=CL;301c=NS;301d=OW;301e-301f=CL;3020-3029=ID;302a-302f=CM;3030=BA;3031-303a=ID;",
      "303b=NS;303c-303e=ID;3041=NS;3042=ID;3043=NS;3044=ID;3045=NS;3046=ID;3047=NS;3048=ID;3049=NS;304",
      "a-3062=ID;3063=NS;3064-3082=ID;3083=NS;3084=ID;3085=NS;3086=ID;3087=NS;3088-308d=ID;308e=NS;308f",
      "-3094=ID;3095-3096=NS;3099-309a=CM;309b-309e=NS;309f=ID;30a0-30a1=NS;30a2=ID;30a3=NS;30a4=ID;30a",
      "5=NS;30a6=ID;30a7=NS;30a8=ID;30a9=NS;30aa-30c2=ID;30c3=NS;30c4-30e2=ID;30e3=NS;30e4=ID;30e5=NS;3",
      "0e6=ID;30e7=NS;30e8-30ed=ID;30ee=NS;30ef-30f4=ID;30f5-30f6=NS;30f7-30fa=ID;30fb-30fe=NS;30ff=ID;",
      "3105-312f=ID;3131-318e=ID;3190-31e3=ID;31f0-31ff=NS;3200-321e=ID;3220-3247=ID;3250-4dbf=ID;4e00-",
      "a48c=ID;a490-a4c6=ID;a620-a629=NU;a66f-a672=CM;a674-a67d=CM;a69e-a69f=CM;a6f0-a6f1=CM;a802=CM;a8",
      "06=CM;a80b=CM;a823-a827=CM;a82c=CM;a838=PR;a874-a875=BB;a880-a881=CM;a8b4-a8c5=CM;a8d0-a8d9=NU;a",
      "8e0-a8f1=CM;a8ff=CM;a900-a909=NU;a926-a92d=CM;a947-a953=CM;a960-a97c=JL;a980-a983=CM;a9b3-a9c0=C",
      "M;a9d0-a9d9=NU;a9e5=CM;a9f0-a9f9=NU;aa29-aa36=CM;aa43=CM;aa4c-aa4d=CM;aa50-aa59=NU;aa7b-aa7d=CM;",
      "aab0=CM;aab2-aab4=CM;aab7-aab8=CM;aabe-aabf=CM;aac1=CM;aaeb-aaef=CM;aaf5-aaf6=CM;abe3-abea=CM;ab",
      "ec-abed=CM;abf0-abf9=NU;d7b0-d7c6=JV;d7cb-d7fb=JT;f900-fa6d=ID;fa70-fad9=ID;fb1d=HL;fb1e=CM;fb1f",
      "-fb28=HL;fb2a-fb36=HL;fb38-fb3c=HL;fb3e=HL;fb40-fb41=HL;fb43-fb44=HL;fb46-fb4f=HL;fd3e=CL;fd3f=O",
      "P;fdfc=PR;fe00-fe0f=CM;fe10=IS;fe11-fe12=ID;fe13-fe14=IS;fe15-fe16=ID;fe17=OW;fe18=CL;fe19=ID;fe",
      "20-fe2f=CM;fe30=ID;fe31-fe32=BA;fe33-fe34=ID;fe35=OW;fe36=CL;fe37=OW;fe38=CL;fe39=OW;fe3a=CL;fe3",
      "b=OW;fe3c=CL;fe3d=OW;fe3e=CL;fe3f=OW;fe40=CL;fe41=OW;fe42=CL;fe43=OW;fe44=CL;fe45-fe46=ID;fe47=O",
      "W;fe48=CL;fe49-fe4f=ID;fe50=CL;fe51=ID;fe52=CL;fe54-fe55=ID;fe56-fe57=EX;fe58=BA;fe59=OW;fe5a=CL",
      ";fe5b=OW;fe5c=CL;fe5d=OW;fe5e=CL;fe5f-fe62=ID;fe63=BA;fe64-fe66=ID;fe68=ID;fe69=PR;fe6a-fe6b=ID;",
      "feff=WJ;ff01=EX;ff02-ff03=ID;ff04=PR;ff05=PO;ff06-ff07=ID;ff08=OW;ff09=CL;ff0a-ff0b=ID;ff0c=CL;f",
      "f0d=BA;ff0e=CL;ff0f=ID;ff10-ff19=NU;ff1a-ff1b=NS;ff1c-ff1e=ID;ff1f=EX;ff20-ff3a=ID;ff3b=OW;ff3c=",
      "ID;ff3d=CL;ff3e-ff5a=ID;ff5b=OW;ff5c=ID;ff5d=CL;ff5e=ID;ff5f=OW;ff60-ff61=CL;ff62=OW;ff63-ff64=C",
      "L;ff65=NS;ff67-ff70=NS;ff9e-ff9f=NS;ffe0=PO;ffe1=PR;ffe2-ffe4=ID;ffe5-ffe6=PR;fff9-fffb=CM;101fd",
      "=CM;102e0=CM;10376-1037a=CM;104a0-104a9=NU;10a01-10a03=CM;10a05-10a06=CM;10a0c-10a0f=CM;10a38-10",
      "a3a=CM;10a3f=CM;10ae5-10ae6=CM;10d24-10d27=CM;10d30-10d39=NU;10eab-10eac=CM;10ead=BA;10f46-10f50",
      "=CM;10f82-10f85=CM;11000-11002=CM;11038-11046=CM;11066-1106f=NU;11070=CM;11073-11074=CM;1107f-11",
      "082=CM;110b0-110ba=CM;110bd=CM;110c2=CM;110cd=CM;110f0-110f9=NU;11100-11102=CM;11127-11134=CM;11",
      "136-1113f=NU;11145-11146=CM;11173=CM;11180-11182=CM;111b3-111c0=CM;111c9-111cc=CM;111ce-111cf=CM",
      ";111d0-111d9=NU;1122c-11237=CM;1123e=CM;112df-112ea=CM;112f0-112f9=NU;11300-11303=CM;1133b-1133c",
      "=CM;1133e-11344=CM;11347-11348=CM;1134b-1134d=CM;11357=CM;11362-11363=CM;11366-1136c=CM;11370-11",
      "374=CM;11435-11446=CM;11450-11459=NU;1145e=CM;114b0-114c3=CM;114d0-114d9=NU;115af-115b5=CM;115b8",
      "-115c0=CM;115dc-115dd=CM;11630-11640=CM;11650-11659=NU;116ab-116b7=CM;116c0-116c9=NU;1171d-1172b",
      "=CM;11730-11739=NU;1182c-1183a=CM;118e0-118e9=NU;11930-11935=CM;11937-11938=CM;1193b-1193e=CM;11",
      "940=CM;11942-11943=CM;11950-11959=NU;119d1-119d7=CM;119da-119e0=CM;119e4=CM;11a01-11a0a=CM;11a33",
      "-11a39=CM;11a3b-11a3e=CM;11a47=CM;11a51-11a5b=CM;11a8a-11a99=CM;11c2f-11c36=CM;11c38-11c3f=CM;11",
      "c50-11c59=NU;11c92-11ca7=CM;11ca9-11cb6=CM;11d31-11d36=CM;11d3a=CM;11d3c-11d3d=CM;11d3f-11d45=CM",
      ";11d47=CM;11d50-11d59=NU;11d8a-11d8e=CM;11d90-11d91=CM;11d93-11d97=CM;11da0-11da9=NU;11ef3-11ef6",
      "=CM;11fdd-11fe0=PR;13430-13438=CM;16a60-16a69=NU;16ac0-16ac9=NU;16af0-16af4=CM;16b30-16b36=CM;16",
      "b50-16b59=NU;16f4f=CM;16f51-16f87=CM;16f8f-16f92=CM;16fe0-16fe3=ID;16fe4=CM;16ff0-16ff1=CM;17000",
      "-187f7=ID;18800-18cd5=ID;18d00-18d08=ID;1aff0-1aff3=ID;1aff5-1affb=ID;1affd-1affe=ID;1b000-1b122",
      "=ID;1b150-1b152=ID;1b164-1b167=ID;1b170-1b2fb=ID;1bc9d-1bc9e=CM;1bca0-1bca3=CM;1cf00-1cf2d=CM;1c",
      "f30-1cf46=CM;1d165-1d169=CM;1d16d-1d182=CM;1d185-1d18b=CM;1d1aa-1d1ad=CM;1d242-1d244=CM;1d7ce-1d",
      "7ff=NU;1da00-1da36=CM;1da3b-1da6c=CM;1da75=CM;1da84=CM;1da9b-1da9f=CM;1daa1-1daaf=CM;1e000-1e006",
      "=CM;1e008-1e018=CM;1e01b-1e021=CM;1e023-1e024=CM;1e026-1e02a=CM;1e130-1e136=CM;1e140-1e149=NU;1e",
      "2ae=CM;1e2ec-1e2ef=CM;1e2f0-1e2f9=NU;1e2ff=PR;1e8d0-1e8d6=CM;1e944-1e94a=CM;1e950-1e959=NU;1ecb0",
      "=PR;1f000-1f1e5=ID;1f1e6-1f1ff=RI;1f200-1f3fa=ID;1f3fb-1f3ff=EM;1f400-1faff=ID;1fbf0-1fbf9=NU;1f",
      "c00-1fffd=ID;20000-3fffd=ID;e0001=CM;e0020-e007f=CM;e0100-e01ef=CM"]

end RepoRouting.Unicode
