/-!
# Bidirectional classes

The `Bidi_Class` of every assigned code point, as ranges. Unassigned code points have no
entry; they never reach the bidirectional rule, as IDNA processing refuses them first.
-/

namespace RepoRouting.Unicode

/-- Bidirectional classes as text: ranges with their class. -/
def bidiClassText : String :=
  String.join [
    "0-8=BN;9=S;a=B;b=S;c=WS;d=B;e-1b=BN;1c-1e=B;1f=S;20=WS;21-22=ON;23-25=ET;26-2a=ON;2b=ES;2c=CS;2d",
    "=ES;2e-2f=CS;30-39=EN;3a=CS;3b-40=ON;41-5a=L;5b-60=ON;61-7a=L;7b-7e=ON;7f-84=BN;85=B;86-9f=BN;a0",
    "=CS;a1=ON;a2-a5=ET;a6-a9=ON;aa=L;ab-ac=ON;ad=BN;ae-af=ON;b0-b1=ET;b2-b3=EN;b4=ON;b5=L;b6-b8=ON;b",
    "9=EN;ba=L;bb-bf=ON;c0-d6=L;d7=ON;d8-f6=L;f7=ON;f8-2b8=L;2b9-2ba=ON;2bb-2c1=L;2c2-2cf=ON;2d0-2d1=",
    "L;2d2-2df=ON;2e0-2e4=L;2e5-2ed=ON;2ee=L;2ef-2ff=ON;300-36f=NSM;370-373=L;374-375=ON;376-377=L;37",
    "a-37d=L;37e=ON;37f=L;384-385=ON;386=L;387=ON;388-38a=L;38c=L;38e-3a1=L;3a3-3f5=L;3f6=ON;3f7-482=",
    "L;483-489=NSM;48a-52f=L;531-556=L;559-589=L;58a=ON;58d-58e=ON;58f=ET;591-5bd=NSM;5be=R;5bf=NSM;5",
    "c0=R;5c1-5c2=NSM;5c3=R;5c4-5c5=NSM;5c6=R;5c7=NSM;5d0-5ea=R;5ef-5f4=R;600-605=AN;606-607=ON;608=A",
    "L;609-60a=ET;60b=AL;60c=CS;60d=AL;60e-60f=ON;610-61a=NSM;61b-64a=AL;64b-65f=NSM;660-669=AN;66a=E",
    "T;66b-66c=AN;66d-66f=AL;670=NSM;671-6d5=AL;6d6-6dc=NSM;6dd=AN;6de=ON;6df-6e4=NSM;6e5-6e6=AL;6e7-",
    "6e8=NSM;6e9=ON;6ea-6ed=NSM;6ee-6ef=AL;6f0-6f9=EN;6fa-70d=AL;70f-710=AL;711=NSM;712-72f=AL;730-74",
    "a=NSM;74d-7a5=AL;7a6-7b0=NSM;7b1=AL;7c0-7ea=R;7eb-7f3=NSM;7f4-7f5=R;7f6-7f9=ON;7fa=R;7fd=NSM;7fe",
    "-815=R;816-819=NSM;81a=R;81b-823=NSM;824=R;825-827=NSM;828=R;829-82d=NSM;830-83e=R;840-858=R;859",
    "-85b=NSM;85e=R;860-86a=AL;870-88e=AL;890-891=AN;898-89f=NSM;8a0-8c9=AL;8ca-8e1=NSM;8e2=AN;8e3-90",
    "2=NSM;903-939=L;93a=NSM;93b=L;93c=NSM;93d-940=L;941-948=NSM;949-94c=L;94d=NSM;94e-950=L;951-957=",
    "NSM;958-961=L;962-963=NSM;964-980=L;981=NSM;982-983=L;985-98c=L;98f-990=L;993-9a8=L;9aa-9b0=L;9b",
    "2=L;9b6-9b9=L;9bc=NSM;9bd-9c0=L;9c1-9c4=NSM;9c7-9c8=L;9cb-9cc=L;9cd=NSM;9ce=L;9d7=L;9dc-9dd=L;9d",
    "f-9e1=L;9e2-9e3=NSM;9e6-9f1=L;9f2-9f3=ET;9f4-9fa=L;9fb=ET;9fc-9fd=L;9fe=NSM;a01-a02=NSM;a03=L;a0",
    "5-a0a=L;a0f-a10=L;a13-a28=L;a2a-a30=L;a32-a33=L;a35-a36=L;a38-a39=L;a3c=NSM;a3e-a40=L;a41-a42=NS",
    "M;a47-a48=NSM;a4b-a4d=NSM;a51=NSM;a59-a5c=L;a5e=L;a66-a6f=L;a70-a71=NSM;a72-a74=L;a75=NSM;a76=L;",
    "a81-a82=NSM;a83=L;a85-a8d=L;a8f-a91=L;a93-aa8=L;aaa-ab0=L;ab2-ab3=L;ab5-ab9=L;abc=NSM;abd-ac0=L;",
    "ac1-ac5=NSM;ac7-ac8=NSM;ac9=L;acb-acc=L;acd=NSM;ad0=L;ae0-ae1=L;ae2-ae3=NSM;ae6-af0=L;af1=ET;af9",
    "=L;afa-aff=NSM;b01=NSM;b02-b03=L;b05-b0c=L;b0f-b10=L;b13-b28=L;b2a-b30=L;b32-b33=L;b35-b39=L;b3c",
    "=NSM;b3d-b3e=L;b3f=NSM;b40=L;b41-b44=NSM;b47-b48=L;b4b-b4c=L;b4d=NSM;b55-b56=NSM;b57=L;b5c-b5d=L",
    ";b5f-b61=L;b62-b63=NSM;b66-b77=L;b82=NSM;b83=L;b85-b8a=L;b8e-b90=L;b92-b95=L;b99-b9a=L;b9c=L;b9e",
    "-b9f=L;ba3-ba4=L;ba8-baa=L;bae-bb9=L;bbe-bbf=L;bc0=NSM;bc1-bc2=L;bc6-bc8=L;bca-bcc=L;bcd=NSM;bd0",
    "=L;bd7=L;be6-bf2=L;bf3-bf8=ON;bf9=ET;bfa=ON;c00=NSM;c01-c03=L;c04=NSM;c05-c0c=L;c0e-c10=L;c12-c2",
    "8=L;c2a-c39=L;c3c=NSM;c3d=L;c3e-c40=NSM;c41-c44=L;c46-c48=NSM;c4a-c4d=NSM;c55-c56=NSM;c58-c5a=L;",
    "c5d=L;c60-c61=L;c62-c63=NSM;c66-c6f=L;c77=L;c78-c7e=ON;c7f-c80=L;c81=NSM;c82-c8c=L;c8e-c90=L;c92",
    "-ca8=L;caa-cb3=L;cb5-cb9=L;cbc=NSM;cbd-cc4=L;cc6-cc8=L;cca-ccb=L;ccc-ccd=NSM;cd5-cd6=L;cdd-cde=L",
    ";ce0-ce1=L;ce2-ce3=NSM;ce6-cef=L;cf1-cf2=L;d00-d01=NSM;d02-d0c=L;d0e-d10=L;d12-d3a=L;d3b-d3c=NSM",
    ";d3d-d40=L;d41-d44=NSM;d46-d48=L;d4a-d4c=L;d4d=NSM;d4e-d4f=L;d54-d61=L;d62-d63=NSM;d66-d7f=L;d81",
    "=NSM;d82-d83=L;d85-d96=L;d9a-db1=L;db3-dbb=L;dbd=L;dc0-dc6=L;dca=NSM;dcf-dd1=L;dd2-dd4=NSM;dd6=N",
    "SM;dd8-ddf=L;de6-def=L;df2-df4=L;e01-e30=L;e31=NSM;e32-e33=L;e34-e3a=NSM;e3f=ET;e40-e46=L;e47-e4",
    "e=NSM;e4f-e5b=L;e81-e82=L;e84=L;e86-e8a=L;e8c-ea3=L;ea5=L;ea7-eb0=L;eb1=NSM;eb2-eb3=L;eb4-ebc=NS",
    "M;ebd=L;ec0-ec4=L;ec6=L;ec8-ecd=NSM;ed0-ed9=L;edc-edf=L;f00-f17=L;f18-f19=NSM;f1a-f34=L;f35=NSM;",
    "f36=L;f37=NSM;f38=L;f39=NSM;f3a-f3d=ON;f3e-f47=L;f49-f6c=L;f71-f7e=NSM;f7f=L;f80-f84=NSM;f85=L;f",
    "86-f87=NSM;f88-f8c=L;f8d-f97=NSM;f99-fbc=NSM;fbe-fc5=L;fc6=NSM;fc7-fcc=L;fce-fda=L;1000-102c=L;1",
    "02d-1030=NSM;1031=L;1032-1037=NSM;1038=L;1039-103a=NSM;103b-103c=L;103d-103e=NSM;103f-1057=L;105",
    "8-1059=NSM;105a-105d=L;105e-1060=NSM;1061-1070=L;1071-1074=NSM;1075-1081=L;1082=NSM;1083-1084=L;",
    "1085-1086=NSM;1087-108c=L;108d=NSM;108e-109c=L;109d=NSM;109e-10c5=L;10c7=L;10cd=L;10d0-1248=L;12",
    "4a-124d=L;1250-1256=L;1258=L;125a-125d=L;1260-1288=L;128a-128d=L;1290-12b0=L;12b2-12b5=L;12b8-12",
    "be=L;12c0=L;12c2-12c5=L;12c8-12d6=L;12d8-1310=L;1312-1315=L;1318-135a=L;135d-135f=NSM;1360-137c=",
    "L;1380-138f=L;1390-1399=ON;13a0-13f5=L;13f8-13fd=L;1400=ON;1401-167f=L;1680=WS;1681-169a=L;169b-",
    "169c=ON;16a0-16f8=L;1700-1711=L;1712-1714=NSM;1715=L;171f-1731=L;1732-1733=NSM;1734-1736=L;1740-",
    "1751=L;1752-1753=NSM;1760-176c=L;176e-1770=L;1772-1773=NSM;1780-17b3=L;17b4-17b5=NSM;17b6=L;17b7",
    "-17bd=NSM;17be-17c5=L;17c6=NSM;17c7-17c8=L;17c9-17d3=NSM;17d4-17da=L;17db=ET;17dc=L;17dd=NSM;17e",
    "0-17e9=L;17f0-17f9=ON;1800-180a=ON;180b-180d=NSM;180e=BN;180f=NSM;1810-1819=L;1820-1878=L;1880-1",
    "884=L;1885-1886=NSM;1887-18a8=L;18a9=NSM;18aa=L;18b0-18f5=L;1900-191e=L;1920-1922=NSM;1923-1926=",
    "L;1927-1928=NSM;1929-192b=L;1930-1931=L;1932=NSM;1933-1938=L;1939-193b=NSM;1940=ON;1944-1945=ON;",
    "1946-196d=L;1970-1974=L;1980-19ab=L;19b0-19c9=L;19d0-19da=L;19de-19ff=ON;1a00-1a16=L;1a17-1a18=N",
    "SM;1a19-1a1a=L;1a1b=NSM;1a1e-1a55=L;1a56=NSM;1a57=L;1a58-1a5e=NSM;1a60=NSM;1a61=L;1a62=NSM;1a63-",
    "1a64=L;1a65-1a6c=NSM;1a6d-1a72=L;1a73-1a7c=NSM;1a7f=NSM;1a80-1a89=L;1a90-1a99=L;1aa0-1aad=L;1ab0",
    "-1ace=NSM;1b00-1b03=NSM;1b04-1b33=L;1b34=NSM;1b35=L;1b36-1b3a=NSM;1b3b=L;1b3c=NSM;1b3d-1b41=L;1b",
    "42=NSM;1b43-1b4c=L;1b50-1b6a=L;1b6b-1b73=NSM;1b74-1b7e=L;1b80-1b81=NSM;1b82-1ba1=L;1ba2-1ba5=NSM",
    ";1ba6-1ba7=L;1ba8-1ba9=NSM;1baa=L;1bab-1bad=NSM;1bae-1be5=L;1be6=NSM;1be7=L;1be8-1be9=NSM;1bea-1",
    "bec=L;1bed=NSM;1bee=L;1bef-1bf1=NSM;1bf2-1bf3=L;1bfc-1c2b=L;1c2c-1c33=NSM;1c34-1c35=L;1c36-1c37=",
    "NSM;1c3b-1c49=L;1c4d-1c88=L;1c90-1cba=L;1cbd-1cc7=L;1cd0-1cd2=NSM;1cd3=L;1cd4-1ce0=NSM;1ce1=L;1c",
    "e2-1ce8=NSM;1ce9-1cec=L;1ced=NSM;1cee-1cf3=L;1cf4=NSM;1cf5-1cf7=L;1cf8-1cf9=NSM;1cfa=L;1d00-1dbf",
    "=L;1dc0-1dff=NSM;1e00-1f15=L;1f18-1f1d=L;1f20-1f45=L;1f48-1f4d=L;1f50-1f57=L;1f59=L;1f5b=L;1f5d=",
    "L;1f5f-1f7d=L;1f80-1fb4=L;1fb6-1fbc=L;1fbd=ON;1fbe=L;1fbf-1fc1=ON;1fc2-1fc4=L;1fc6-1fcc=L;1fcd-1",
    "fcf=ON;1fd0-1fd3=L;1fd6-1fdb=L;1fdd-1fdf=ON;1fe0-1fec=L;1fed-1fef=ON;1ff2-1ff4=L;1ff6-1ffc=L;1ff",
    "d-1ffe=ON;2000-200a=WS;200b-200d=BN;200e=L;200f=R;2010-2027=ON;2028=WS;2029=B;202a=LRE;202b=RLE;",
    "202c=PDF;202d=LRO;202e=RLO;202f=CS;2030-2034=ET;2035-2043=ON;2044=CS;2045-205e=ON;205f=WS;2060-2",
    "064=BN;2066=LRI;2067=RLI;2068=FSI;2069=PDI;206a-206f=BN;2070=EN;2071=L;2074-2079=EN;207a-207b=ES",
    ";207c-207e=ON;207f=L;2080-2089=EN;208a-208b=ES;208c-208e=ON;2090-209c=L;20a0-20c0=ET;20d0-20f0=N",
    "SM;2100-2101=ON;2102=L;2103-2106=ON;2107=L;2108-2109=ON;210a-2113=L;2114=ON;2115=L;2116-2118=ON;",
    "2119-211d=L;211e-2123=ON;2124=L;2125=ON;2126=L;2127=ON;2128=L;2129=ON;212a-212d=L;212e=ET;212f-2",
    "139=L;213a-213b=ON;213c-213f=L;2140-2144=ON;2145-2149=L;214a-214d=ON;214e-214f=L;2150-215f=ON;21",
    "60-2188=L;2189-218b=ON;2190-2211=ON;2212=ES;2213=ET;2214-2335=ON;2336-237a=L;237b-2394=ON;2395=L",
    ";2396-2426=ON;2440-244a=ON;2460-2487=ON;2488-249b=EN;249c-24e9=L;24ea-26ab=ON;26ac=L;26ad-27ff=O",
    "N;2800-28ff=L;2900-2b73=ON;2b76-2b95=ON;2b97-2bff=ON;2c00-2ce4=L;2ce5-2cea=ON;2ceb-2cee=L;2cef-2",
    "cf1=NSM;2cf2-2cf3=L;2cf9-2cff=ON;2d00-2d25=L;2d27=L;2d2d=L;2d30-2d67=L;2d6f-2d70=L;2d7f=NSM;2d80",
    "-2d96=L;2da0-2da6=L;2da8-2dae=L;2db0-2db6=L;2db8-2dbe=L;2dc0-2dc6=L;2dc8-2dce=L;2dd0-2dd6=L;2dd8",
    "-2dde=L;2de0-2dff=NSM;2e00-2e5d=ON;2e80-2e99=ON;2e9b-2ef3=ON;2f00-2fd5=ON;2ff0-2ffb=ON;3000=WS;3",
    "001-3004=ON;3005-3007=L;3008-3020=ON;3021-3029=L;302a-302d=NSM;302e-302f=L;3030=ON;3031-3035=L;3",
    "036-3037=ON;3038-303c=L;303d-303f=ON;3041-3096=L;3099-309a=NSM;309b-309c=ON;309d-309f=L;30a0=ON;",
    "30a1-30fa=L;30fb=ON;30fc-30ff=L;3105-312f=L;3131-318e=L;3190-31bf=L;31c0-31e3=ON;31f0-321c=L;321",
    "d-321e=ON;3220-324f=L;3250-325f=ON;3260-327b=L;327c-327e=ON;327f-32b0=L;32b1-32bf=ON;32c0-32cb=L",
    ";32cc-32cf=ON;32d0-3376=L;3377-337a=ON;337b-33dd=L;33de-33df=ON;33e0-33fe=L;33ff=ON;3400-4dbf=L;",
    "4dc0-4dff=ON;4e00-a48c=L;a490-a4c6=ON;a4d0-a60c=L;a60d-a60f=ON;a610-a62b=L;a640-a66e=L;a66f-a672",
    "=NSM;a673=ON;a674-a67d=NSM;a67e-a67f=ON;a680-a69d=L;a69e-a69f=NSM;a6a0-a6ef=L;a6f0-a6f1=NSM;a6f2",
    "-a6f7=L;a700-a721=ON;a722-a787=L;a788=ON;a789-a7ca=L;a7d0-a7d1=L;a7d3=L;a7d5-a7d9=L;a7f2-a801=L;",
    "a802=NSM;a803-a805=L;a806=NSM;a807-a80a=L;a80b=NSM;a80c-a824=L;a825-a826=NSM;a827=L;a828-a82b=ON",
    ";a82c=NSM;a830-a837=L;a838-a839=ET;a840-a873=L;a874-a877=ON;a880-a8c3=L;a8c4-a8c5=NSM;a8ce-a8d9=",
    "L;a8e0-a8f1=NSM;a8f2-a8fe=L;a8ff=NSM;a900-a925=L;a926-a92d=NSM;a92e-a946=L;a947-a951=NSM;a952-a9",
    "53=L;a95f-a97c=L;a980-a982=NSM;a983-a9b2=L;a9b3=NSM;a9b4-a9b5=L;a9b6-a9b9=NSM;a9ba-a9bb=L;a9bc-a",
    "9bd=NSM;a9be-a9cd=L;a9cf-a9d9=L;a9de-a9e4=L;a9e5=NSM;a9e6-a9fe=L;aa00-aa28=L;aa29-aa2e=NSM;aa2f-",
    "aa30=L;aa31-aa32=NSM;aa33-aa34=L;aa35-aa36=NSM;aa40-aa42=L;aa43=NSM;aa44-aa4b=L;aa4c=NSM;aa4d=L;",
    "aa50-aa59=L;aa5c-aa7b=L;aa7c=NSM;aa7d-aaaf=L;aab0=NSM;aab1=L;aab2-aab4=NSM;aab5-aab6=L;aab7-aab8",
    "=NSM;aab9-aabd=L;aabe-aabf=NSM;aac0=L;aac1=NSM;aac2=L;aadb-aaeb=L;aaec-aaed=NSM;aaee-aaf5=L;aaf6",
    "=NSM;ab01-ab06=L;ab09-ab0e=L;ab11-ab16=L;ab20-ab26=L;ab28-ab2e=L;ab30-ab69=L;ab6a-ab6b=ON;ab70-a",
    "be4=L;abe5=NSM;abe6-abe7=L;abe8=NSM;abe9-abec=L;abed=NSM;abf0-abf9=L;ac00-d7a3=L;d7b0-d7c6=L;d7c",
    "b-d7fb=L;d800-fa6d=L;fa70-fad9=L;fb00-fb06=L;fb13-fb17=L;fb1d=R;fb1e=NSM;fb1f-fb28=R;fb29=ES;fb2",
    "a-fb36=R;fb38-fb3c=R;fb3e=R;fb40-fb41=R;fb43-fb44=R;fb46-fb4f=R;fb50-fbc2=AL;fbd3-fd3d=AL;fd3e-f",
    "d4f=ON;fd50-fd8f=AL;fd92-fdc7=AL;fdcf=ON;fdf0-fdfc=AL;fdfd-fdff=ON;fe00-fe0f=NSM;fe10-fe19=ON;fe",
    "20-fe2f=NSM;fe30-fe4f=ON;fe50=CS;fe51=ON;fe52=CS;fe54=ON;fe55=CS;fe56-fe5e=ON;fe5f=ET;fe60-fe61=",
    "ON;fe62-fe63=ES;fe64-fe66=ON;fe68=ON;fe69-fe6a=ET;fe6b=ON;fe70-fe74=AL;fe76-fefc=AL;feff=BN;ff01",
    "-ff02=ON;ff03-ff05=ET;ff06-ff0a=ON;ff0b=ES;ff0c=CS;ff0d=ES;ff0e-ff0f=CS;ff10-ff19=EN;ff1a=CS;ff1",
    "b-ff20=ON;ff21-ff3a=L;ff3b-ff40=ON;ff41-ff5a=L;ff5b-ff65=ON;ff66-ffbe=L;ffc2-ffc7=L;ffca-ffcf=L;",
    "ffd2-ffd7=L;ffda-ffdc=L;ffe0-ffe1=ET;ffe2-ffe4=ON;ffe5-ffe6=ET;ffe8-ffee=ON;fff9-fffd=ON;10000-1",
    "000b=L;1000d-10026=L;10028-1003a=L;1003c-1003d=L;1003f-1004d=L;10050-1005d=L;10080-100fa=L;10100",
    "=L;10101=ON;10102=L;10107-10133=L;10137-1013f=L;10140-1018c=ON;1018d-1018e=L;10190-1019c=ON;101a",
    "0=ON;101d0-101fc=L;101fd=NSM;10280-1029c=L;102a0-102d0=L;102e0=NSM;102e1-102fb=EN;10300-10323=L;",
    "1032d-1034a=L;10350-10375=L;10376-1037a=NSM;10380-1039d=L;1039f-103c3=L;103c8-103d5=L;10400-1049",
    "d=L;104a0-104a9=L;104b0-104d3=L;104d8-104fb=L;10500-10527=L;10530-10563=L;1056f-1057a=L;1057c-10",
    "58a=L;1058c-10592=L;10594-10595=L;10597-105a1=L;105a3-105b1=L;105b3-105b9=L;105bb-105bc=L;10600-",
    "10736=L;10740-10755=L;10760-10767=L;10780-10785=L;10787-107b0=L;107b2-107ba=L;10800-10805=R;1080",
    "8=R;1080a-10835=R;10837-10838=R;1083c=R;1083f-10855=R;10857-1089e=R;108a7-108af=R;108e0-108f2=R;",
    "108f4-108f5=R;108fb-1091b=R;1091f=ON;10920-10939=R;1093f=R;10980-109b7=R;109bc-109cf=R;109d2-10a",
    "00=R;10a01-10a03=NSM;10a05-10a06=NSM;10a0c-10a0f=NSM;10a10-10a13=R;10a15-10a17=R;10a19-10a35=R;1",
    "0a38-10a3a=NSM;10a3f=NSM;10a40-10a48=R;10a50-10a58=R;10a60-10a9f=R;10ac0-10ae4=R;10ae5-10ae6=NSM",
    ";10aeb-10af6=R;10b00-10b35=R;10b39-10b3f=ON;10b40-10b55=R;10b58-10b72=R;10b78-10b91=R;10b99-10b9",
    "c=R;10ba9-10baf=R;10c00-10c48=R;10c80-10cb2=R;10cc0-10cf2=R;10cfa-10cff=R;10d00-10d23=AL;10d24-1",
    "0d27=NSM;10d30-10d39=AN;10e60-10e7e=AN;10e80-10ea9=R;10eab-10eac=NSM;10ead=R;10eb0-10eb1=R;10f00",
    "-10f27=R;10f30-10f45=AL;10f46-10f50=NSM;10f51-10f59=AL;10f70-10f81=R;10f82-10f85=NSM;10f86-10f89",
    "=R;10fb0-10fcb=R;10fe0-10ff6=R;11000=L;11001=NSM;11002-11037=L;11038-11046=NSM;11047-1104d=L;110",
    "52-11065=ON;11066-1106f=L;11070=NSM;11071-11072=L;11073-11074=NSM;11075=L;1107f-11081=NSM;11082-",
    "110b2=L;110b3-110b6=NSM;110b7-110b8=L;110b9-110ba=NSM;110bb-110c1=L;110c2=NSM;110cd=L;110d0-110e",
    "8=L;110f0-110f9=L;11100-11102=NSM;11103-11126=L;11127-1112b=NSM;1112c=L;1112d-11134=NSM;11136-11",
    "147=L;11150-11172=L;11173=NSM;11174-11176=L;11180-11181=NSM;11182-111b5=L;111b6-111be=NSM;111bf-",
    "111c8=L;111c9-111cc=NSM;111cd-111ce=L;111cf=NSM;111d0-111df=L;111e1-111f4=L;11200-11211=L;11213-",
    "1122e=L;1122f-11231=NSM;11232-11233=L;11234=NSM;11235=L;11236-11237=NSM;11238-1123d=L;1123e=NSM;",
    "11280-11286=L;11288=L;1128a-1128d=L;1128f-1129d=L;1129f-112a9=L;112b0-112de=L;112df=NSM;112e0-11",
    "2e2=L;112e3-112ea=NSM;112f0-112f9=L;11300-11301=NSM;11302-11303=L;11305-1130c=L;1130f-11310=L;11",
    "313-11328=L;1132a-11330=L;11332-11333=L;11335-11339=L;1133b-1133c=NSM;1133d-1133f=L;11340=NSM;11",
    "341-11344=L;11347-11348=L;1134b-1134d=L;11350=L;11357=L;1135d-11363=L;11366-1136c=NSM;11370-1137",
    "4=NSM;11400-11437=L;11438-1143f=NSM;11440-11441=L;11442-11444=NSM;11445=L;11446=NSM;11447-1145b=",
    "L;1145d=L;1145e=NSM;1145f-11461=L;11480-114b2=L;114b3-114b8=NSM;114b9=L;114ba=NSM;114bb-114be=L;",
    "114bf-114c0=NSM;114c1=L;114c2-114c3=NSM;114c4-114c7=L;114d0-114d9=L;11580-115b1=L;115b2-115b5=NS",
    "M;115b8-115bb=L;115bc-115bd=NSM;115be=L;115bf-115c0=NSM;115c1-115db=L;115dc-115dd=NSM;11600-1163",
    "2=L;11633-1163a=NSM;1163b-1163c=L;1163d=NSM;1163e=L;1163f-11640=NSM;11641-11644=L;11650-11659=L;",
    "11660-1166c=ON;11680-116aa=L;116ab=NSM;116ac=L;116ad=NSM;116ae-116af=L;116b0-116b5=NSM;116b6=L;1",
    "16b7=NSM;116b8-116b9=L;116c0-116c9=L;11700-1171a=L;1171d-1171f=NSM;11720-11721=L;11722-11725=NSM",
    ";11726=L;11727-1172b=NSM;11730-11746=L;11800-1182e=L;1182f-11837=NSM;11838=L;11839-1183a=NSM;118",
    "3b=L;118a0-118f2=L;118ff-11906=L;11909=L;1190c-11913=L;11915-11916=L;11918-11935=L;11937-11938=L",
    ";1193b-1193c=NSM;1193d=L;1193e=NSM;1193f-11942=L;11943=NSM;11944-11946=L;11950-11959=L;119a0-119",
    "a7=L;119aa-119d3=L;119d4-119d7=NSM;119da-119db=NSM;119dc-119df=L;119e0=NSM;119e1-119e4=L;11a00=L",
    ";11a01-11a06=NSM;11a07-11a08=L;11a09-11a0a=NSM;11a0b-11a32=L;11a33-11a38=NSM;11a39-11a3a=L;11a3b",
    "-11a3e=NSM;11a3f-11a46=L;11a47=NSM;11a50=L;11a51-11a56=NSM;11a57-11a58=L;11a59-11a5b=NSM;11a5c-1",
    "1a89=L;11a8a-11a96=NSM;11a97=L;11a98-11a99=NSM;11a9a-11aa2=L;11ab0-11af8=L;11c00-11c08=L;11c0a-1",
    "1c2f=L;11c30-11c36=NSM;11c38-11c3d=NSM;11c3e-11c45=L;11c50-11c6c=L;11c70-11c8f=L;11c92-11ca7=NSM",
    ";11ca9=L;11caa-11cb0=NSM;11cb1=L;11cb2-11cb3=NSM;11cb4=L;11cb5-11cb6=NSM;11d00-11d06=L;11d08-11d",
    "09=L;11d0b-11d30=L;11d31-11d36=NSM;11d3a=NSM;11d3c-11d3d=NSM;11d3f-11d45=NSM;11d46=L;11d47=NSM;1",
    "1d50-11d59=L;11d60-11d65=L;11d67-11d68=L;11d6a-11d8e=L;11d90-11d91=NSM;11d93-11d94=L;11d95=NSM;1",
    "1d96=L;11d97=NSM;11d98=L;11da0-11da9=L;11ee0-11ef2=L;11ef3-11ef4=NSM;11ef5-11ef8=L;11fb0=L;11fc0",
    "-11fd4=L;11fd5-11fdc=ON;11fdd-11fe0=ET;11fe1-11ff1=ON;11fff-12399=L;12400-1246e=L;12470-12474=L;",
    "12480-12543=L;12f90-12ff2=L;13000-1342e=L;13430-13438=L;14400-14646=L;16800-16a38=L;16a40-16a5e=",
    "L;16a60-16a69=L;16a6e-16abe=L;16ac0-16ac9=L;16ad0-16aed=L;16af0-16af4=NSM;16af5=L;16b00-16b2f=L;",
    "16b30-16b36=NSM;16b37-16b45=L;16b50-16b59=L;16b5b-16b61=L;16b63-16b77=L;16b7d-16b8f=L;16e40-16e9",
    "a=L;16f00-16f4a=L;16f4f=NSM;16f50-16f87=L;16f8f-16f92=NSM;16f93-16f9f=L;16fe0-16fe1=L;16fe2=ON;1",
    "6fe3=L;16fe4=NSM;16ff0-16ff1=L;17000-187f7=L;18800-18cd5=L;18d00-18d08=L;1aff0-1aff3=L;1aff5-1af",
    "fb=L;1affd-1affe=L;1b000-1b122=L;1b150-1b152=L;1b164-1b167=L;1b170-1b2fb=L;1bc00-1bc6a=L;1bc70-1",
    "bc7c=L;1bc80-1bc88=L;1bc90-1bc99=L;1bc9c=L;1bc9d-1bc9e=NSM;1bc9f=L;1bca0-1bca3=BN;1cf00-1cf2d=NS",
    "M;1cf30-1cf46=NSM;1cf50-1cfc3=L;1d000-1d0f5=L;1d100-1d126=L;1d129-1d166=L;1d167-1d169=NSM;1d16a-",
    "1d172=L;1d173-1d17a=BN;1d17b-1d182=NSM;1d183-1d184=L;1d185-1d18b=NSM;1d18c-1d1a9=L;1d1aa-1d1ad=N",
    "SM;1d1ae-1d1e8=L;1d1e9-1d1ea=ON;1d200-1d241=ON;1d242-1d244=NSM;1d245=ON;1d2e0-1d2f3=L;1d300-1d35",
    "6=ON;1d360-1d378=L;1d400-1d454=L;1d456-1d49c=L;1d49e-1d49f=L;1d4a2=L;1d4a5-1d4a6=L;1d4a9-1d4ac=L",
    ";1d4ae-1d4b9=L;1d4bb=L;1d4bd-1d4c3=L;1d4c5-1d505=L;1d507-1d50a=L;1d50d-1d514=L;1d516-1d51c=L;1d5",
    "1e-1d539=L;1d53b-1d53e=L;1d540-1d544=L;1d546=L;1d54a-1d550=L;1d552-1d6a5=L;1d6a8-1d6da=L;1d6db=O",
    "N;1d6dc-1d714=L;1d715=ON;1d716-1d74e=L;1d74f=ON;1d750-1d788=L;1d789=ON;1d78a-1d7c2=L;1d7c3=ON;1d",
    "7c4-1d7cb=L;1d7ce-1d7ff=EN;1d800-1d9ff=L;1da00-1da36=NSM;1da37-1da3a=L;1da3b-1da6c=NSM;1da6d-1da",
    "74=L;1da75=NSM;1da76-1da83=L;1da84=NSM;1da85-1da8b=L;1da9b-1da9f=NSM;1daa1-1daaf=NSM;1df00-1df1e",
    "=L;1e000-1e006=NSM;1e008-1e018=NSM;1e01b-1e021=NSM;1e023-1e024=NSM;1e026-1e02a=NSM;1e100-1e12c=L",
    ";1e130-1e136=NSM;1e137-1e13d=L;1e140-1e149=L;1e14e-1e14f=L;1e290-1e2ad=L;1e2ae=NSM;1e2c0-1e2eb=L",
    ";1e2ec-1e2ef=NSM;1e2f0-1e2f9=L;1e2ff=ET;1e7e0-1e7e6=L;1e7e8-1e7eb=L;1e7ed-1e7ee=L;1e7f0-1e7fe=L;",
    "1e800-1e8c4=R;1e8c7-1e8cf=R;1e8d0-1e8d6=NSM;1e900-1e943=R;1e944-1e94a=NSM;1e94b=R;1e950-1e959=R;",
    "1e95e-1e95f=R;1ec71-1ecb4=AL;1ed01-1ed3d=AL;1ee00-1ee03=AL;1ee05-1ee1f=AL;1ee21-1ee22=AL;1ee24=A",
    "L;1ee27=AL;1ee29-1ee32=AL;1ee34-1ee37=AL;1ee39=AL;1ee3b=AL;1ee42=AL;1ee47=AL;1ee49=AL;1ee4b=AL;1",
    "ee4d-1ee4f=AL;1ee51-1ee52=AL;1ee54=AL;1ee57=AL;1ee59=AL;1ee5b=AL;1ee5d=AL;1ee5f=AL;1ee61-1ee62=A",
    "L;1ee64=AL;1ee67-1ee6a=AL;1ee6c-1ee72=AL;1ee74-1ee77=AL;1ee79-1ee7c=AL;1ee7e=AL;1ee80-1ee89=AL;1",
    "ee8b-1ee9b=AL;1eea1-1eea3=AL;1eea5-1eea9=AL;1eeab-1eebb=AL;1eef0-1eef1=ON;1f000-1f02b=ON;1f030-1",
    "f093=ON;1f0a0-1f0ae=ON;1f0b1-1f0bf=ON;1f0c1-1f0cf=ON;1f0d1-1f0f5=ON;1f100-1f10a=EN;1f10b-1f10f=O",
    "N;1f110-1f12e=L;1f12f=ON;1f130-1f169=L;1f16a-1f16f=ON;1f170-1f1ac=L;1f1ad=ON;1f1e6-1f202=L;1f210",
    "-1f23b=L;1f240-1f248=L;1f250-1f251=L;1f260-1f265=ON;1f300-1f6d7=ON;1f6dd-1f6ec=ON;1f6f0-1f6fc=ON",
    ";1f700-1f773=ON;1f780-1f7d8=ON;1f7e0-1f7eb=ON;1f7f0=ON;1f800-1f80b=ON;1f810-1f847=ON;1f850-1f859",
    "=ON;1f860-1f887=ON;1f890-1f8ad=ON;1f8b0-1f8b1=ON;1f900-1fa53=ON;1fa60-1fa6d=ON;1fa70-1fa74=ON;1f",
    "a78-1fa7c=ON;1fa80-1fa86=ON;1fa90-1faac=ON;1fab0-1faba=ON;1fac0-1fac5=ON;1fad0-1fad9=ON;1fae0-1f",
    "ae7=ON;1faf0-1faf6=ON;1fb00-1fb92=ON;1fb94-1fbca=ON;1fbf0-1fbf9=EN;20000-2a6df=L;2a700-2b738=L;2",
    "b740-2b81d=L;2b820-2cea1=L;2ceb0-2ebe0=L;2f800-2fa1d=L;30000-3134a=L;e0001=BN;e0020-e007f=BN;e01",
    "00-e01ef=NSM;f0000-ffffd=L;100000-10fffd=L"]

end RepoRouting.Unicode
