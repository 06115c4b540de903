/-!
# Uppercase mapping

The full uppercase mapping of Unicode: for every character that changes, either a shift
(`+` or `-` and a hexadecimal offset, the same for a whole range) or the hexadecimal code
points it becomes (`ß` becomes `SS`). Characters without an entry stay as they are.
-/

namespace RepoRouting.Unicode

/-- The uppercase mapping as text. -/
def uppercaseText : String :=
  String.join [
    "61-7a=-20;b5=+2e7;df=53 53;e0-f6=-20;f8-fe=-20;ff=+79;101=-1;103=-1;105=-1;107=-1;109=-1;10b=-1;",
    "10d=-1;10f=-1;111=-1;113=-1;115=-1;117=-1;119=-1;11b=-1;11d=-1;11f=-1;121=-1;123=-1;125=-1;127=-",
    "1;129=-1;12b=-1;12d=-1;12f=-1;131=-e8;133=-1;135=-1;137=-1;13a=-1;13c=-1;13e=-1;140=-1;142=-1;14",
    "4=-1;146=-1;148=-1;149=2bc 4e;14b=-1;14d=-1;14f=-1;151=-1;153=-1;155=-1;157=-1;159=-1;15b=-1;15d",
    "=-1;15f=-1;161=-1;163=-1;165=-1;167=-1;169=-1;16b=-1;16d=-1;16f=-1;171=-1;173=-1;175=-1;177=-1;1",
    "7a=-1;17c=-1;17e=-1;17f=-12c;180=+c3;183=-1;185=-1;188=-1;18c=-1;192=-1;195=+61;199=-1;19a=+a3;1",
    "9b=+a641;19e=+82;1a1=-1;1a3=-1;1a5=-1;1a8=-1;1ad=-1;1b0=-1;1b4=-1;1b6=-1;1b9=-1;1bd=-1;1bf=+38;1",
    "c5=-1;1c6=-2;1c8=-1;1c9=-2;1cb=-1;1cc=-2;1ce=-1;1d0=-1;1d2=-1;1d4=-1;1d6=-1;1d8=-1;1da=-1;1dc=-1",
    ";1dd=-4f;1df=-1;1e1=-1;1e3=-1;1e5=-1;1e7=-1;1e9=-1;1eb=-1;1ed=-1;1ef=-1;1f0=4a 30c;1f2=-1;1f3=-2",
    ";1f5=-1;1f9=-1;1fb=-1;1fd=-1;1ff=-1;201=-1;203=-1;205=-1;207=-1;209=-1;20b=-1;20d=-1;20f=-1;211=",
    "-1;213=-1;215=-1;217=-1;219=-1;21b=-1;21d=-1;21f=-1;223=-1;225=-1;227=-1;229=-1;22b=-1;22d=-1;22",
    "f=-1;231=-1;233=-1;23c=-1;23f-240=+2a3f;242=-1;247=-1;249=-1;24b=-1;24d=-1;24f=-1;250=+2a1f;251=",
    "+2a1c;252=+2a1e;253=-d2;254=-ce;256-257=-cd;259=-ca;25b=-cb;25c=+a54f;260=-cd;261=+a54b;263=-cf;",
    "264=+a567;265=+a528;266=+a544;268=-d1;269=-d3;26a=+a544;26b=+29f7;26c=+a541;26f=-d3;271=+29fd;27",
    "2=-d5;275=-d6;27d=+29e7;280=-da;282=+a543;283=-da;287=+a52a;288=-da;289=-45;28a-28b=-d9;28c=-47;",
    "292=-db;29d=+a515;29e=+a512;345=+54;371=-1;373=-1;377=-1;37b-37d=+82;390=399 308 301;3ac=-26;3ad",
    "-3af=-25;3b0=3a5 308 301;3b1-3c1=-20;3c2=-1f;3c3-3cb=-20;3cc=-40;3cd-3ce=-3f;3d0=-3e;3d1=-39;3d5",
    "=-2f;3d6=-36;3d7=-8;3d9=-1;3db=-1;3dd=-1;3df=-1;3e1=-1;3e3=-1;3e5=-1;3e7=-1;3e9=-1;3eb=-1;3ed=-1",
    ";3ef=-1;3f0=-56;3f1=-50;3f2=+7;3f3=-74;3f5=-60;3f8=-1;3fb=-1;430-44f=-20;450-45f=-50;461=-1;463=",
    "-1;465=-1;467=-1;469=-1;46b=-1;46d=-1;46f=-1;471=-1;473=-1;475=-1;477=-1;479=-1;47b=-1;47d=-1;47",
    "f=-1;481=-1;48b=-1;48d=-1;48f=-1;491=-1;493=-1;495=-1;497=-1;499=-1;49b=-1;49d=-1;49f=-1;4a1=-1;",
    "4a3=-1;4a5=-1;4a7=-1;4a9=-1;4ab=-1;4ad=-1;4af=-1;4b1=-1;4b3=-1;4b5=-1;4b7=-1;4b9=-1;4bb=-1;4bd=-",
    "1;4bf=-1;4c2=-1;4c4=-1;4c6=-1;4c8=-1;4ca=-1;4cc=-1;4ce=-1;4cf=-f;4d1=-1;4d3=-1;4d5=-1;4d7=-1;4d9",
    "=-1;4db=-1;4dd=-1;4df=-1;4e1=-1;4e3=-1;4e5=-1;4e7=-1;4e9=-1;4eb=-1;4ed=-1;4ef=-1;4f1=-1;4f3=-1;4",
    "f5=-1;4f7=-1;4f9=-1;4fb=-1;4fd=-1;4ff=-1;501=-1;503=-1;505=-1;507=-1;509=-1;50b=-1;50d=-1;50f=-1",
    ";511=-1;513=-1;515=-1;517=-1;519=-1;51b=-1;51d=-1;51f=-1;521=-1;523=-1;525=-1;527=-1;529=-1;52b=",
    "-1;52d=-1;52f=-1;561-586=-30;587=535 552;10d0-10fa=+bc0;10fd-10ff=+bc0;13f8-13fd=-8;1c80=-186e;1",
    "c81=-186d;1c82=-1864;1c83-1c84=-1862;1c85=-1863;1c86=-185c;1c87=-1825;1c88=+89c2;1c8a=-1;1d79=+8",
    "a04;1d7d=+ee6;1d8e=+8a38;1e01=-1;1e03=-1;1e05=-1;1e07=-1;1e09=-1;1e0b=-1;1e0d=-1;1e0f=-1;1e11=-1",
    ";1e13=-1;1e15=-1;1e17=-1;1e19=-1;1e1b=-1;1e1d=-1;1e1f=-1;1e21=-1;1e23=-1;1e25=-1;1e27=-1;1e29=-1",
    ";1e2b=-1;1e2d=-1;1e2f=-1;1e31=-1;1e33=-1;1e35=-1;1e37=-1;1e39=-1;1e3b=-1;1e3d=-1;1e3f=-1;1e41=-1",
    ";1e43=-1;1e45=-1;1e47=-1;1e49=-1;1e4b=-1;1e4d=-1;1e4f=-1;1e51=-1;1e53=-1;1e55=-1;1e57=-1;1e59=-1",
    ";1e5b=-1;1e5d=-1;1e5f=-1;1e61=-1;1e63=-1;1e65=-1;1e67=-1;1e69=-1;1e6b=-1;1e6d=-1;1e6f=-1;1e71=-1",
    ";1e73=-1;1e75=-1;1e77=-1;1e79=-1;1e7b=-1;1e7d=-1;1e7f=-1;1e81=-1;1e83=-1;1e85=-1;1e87=-1;1e89=-1",
    ";1e8b=-1;1e8d=-1;1e8f=-1;1e91=-1;1e93=-1;1e95=-1;1e96=48 331;1e97=54 308;1e98=57 30a;1e99=59 30a",
    ";1e9a=41 2be;1e9b=-3b;1ea1=-1;1ea3=-1;1ea5=-1;1ea7=-1;1ea9=-1;1eab=-1;1ead=-1;1eaf=-1;1eb1=-1;1e",
    "b3=-1;1eb5=-1;1eb7=-1;1eb9=-1;1ebb=-1;1ebd=-1;1ebf=-1;1ec1=-1;1ec3=-1;1ec5=-1;1ec7=-1;1ec9=-1;1e",
    "cb=-1;1ecd=-1;1ecf=-1;1ed1=-1;1ed3=-1;1ed5=-1;1ed7=-1;1ed9=-1;1edb=-1;1edd=-1;1edf=-1;1ee1=-1;1e",
    "e3=-1;1ee5=-1;1ee7=-1;1ee9=-1;1eeb=-1;1eed=-1;1eef=-1;1ef1=-1;1ef3=-1;1ef5=-1;1ef7=-1;1ef9=-1;1e",
    "fb=-1;1efd=-1;1eff=-1;1f00-1f07=+8;1f10-1f15=+8;1f20-1f27=+8;1f30-1f37=+8;1f40-1f45=+8;1f50=3a5 ",
    "313;1f51=+8;1f52=3a5 313 300;1f53=+8;1f54=3a5 313 301;1f55=+8;1f56=3a5 313 342;1f57=+8;1f60-1f67",
    "=+8;1f70-1f71=+4a;1f72-1f75=+56;1f76-1f77=+64;1f78-1f79=+80;1f7a-1f7b=+70;1f7c-1f7d=+7e;1f80=1f0",
    "8 399;1f81=1f09 399;1f82=1f0a 399;1f83=1f0b 399;1f84=1f0c 399;1f85=1f0d 399;1f86=1f0e 399;1f87=1",
    "f0f 399;1f88=1f08 399;1f89=1f09 399;1f8a=1f0a 399;1f8b=1f0b 399;1f8c=1f0c 399;1f8d=1f0d 399;1f8e",
    "=1f0e 399;1f8f=1f0f 399;1f90=1f28 399;1f91=1f29 399;1f92=1f2a 399;1f93=1f2b 399;1f94=1f2c 399;1f",
    "95=1f2d 399;1f96=1f2e 399;1f97=1f2f 399;1f98=1f28 399;1f99=1f29 399;1f9a=1f2a 399;1f9b=1f2b 399;",
    "1f9c=1f2c 399;1f9d=1f2d 399;1f9e=1f2e 399;1f9f=1f2f 399;1fa0=1f68 399;1fa1=1f69 399;1fa2=1f6a 39",
    "9;1fa3=1f6b 399;1fa4=1f6c 399;1fa5=1f6d 399;1fa6=1f6e 399;1fa7=1f6f 399;1fa8=1f68 399;1fa9=1f69 ",
    "399;1faa=1f6a 399;1fab=1f6b 399;1fac=1f6c 399;1fad=1f6d 399;1fae=1f6e 399;1faf=1f6f 399;1fb0-1fb",
    "1=+8;1fb2=1fba 399;1fb3=391 399;1fb4=386 399;1fb6=391 342;1fb7=391 342 399;1fbc=391 399;1fbe=-1c",
    "25;1fc2=1fca 399;1fc3=397 399;1fc4=389 399;1fc6=397 342;1fc7=397 342 399;1fcc=397 399;1fd0-1fd1=",
    "+8;1fd2=399 308 300;1fd3=399 308 301;1fd6=399 342;1fd7=399 308 342;1fe0-1fe1=+8;1fe2=3a5 308 300",
    ";1fe3=3a5 308 301;1fe4=3a1 313;1fe5=+7;1fe6=3a5 342;1fe7=3a5 308 342;1ff2=1ffa 399;1ff3=3a9 399;",
    "1ff4=38f 399;1ff6=3a9 342;1ff7=3a9 342 399;1ffc=3a9 399;214e=-1c;2170-217f=-10;2184=-1;24d0-24e9",
    "=-1a;2c30-2c5f=-30;2c61=-1;2c65=-2a2b;2c66=-2a28;2c68=-1;2c6a=-1;2c6c=-1;2c73=-1;2c76=-1;2c81=-1",
    ";2c83=-1;2c85=-1;2c87=-1;2c89=-1;2c8b=-1;2c8d=-1;2c8f=-1;2c91=-1;2c93=-1;2c95=-1;2c97=-1;2c99=-1",
    ";2c9b=-1;2c9d=-1;2c9f=-1;2ca1=-1;2ca3=-1;2ca5=-1;2ca7=-1;2ca9=-1;2cab=-1;2cad=-1;2caf=-1;2cb1=-1",
    ";2cb3=-1;2cb5=-1;2cb7=-1;2cb9=-1;2cbb=-1;2cbd=-1;2cbf=-1;2cc1=-1;2cc3=-1;2cc5=-1;2cc7=-1;2cc9=-1",
    ";2ccb=-1;2ccd=-1;2ccf=-1;2cd1=-1;2cd3=-1;2cd5=-1;2cd7=-1;2cd9=-1;2cdb=-1;2cdd=-1;2cdf=-1;2ce1=-1",
    ";2ce3=-1;2cec=-1;2cee=-1;2cf3=-1;2d00-2d25=-1c60;2d27=-1c60;2d2d=-1c60;a641=-1;a643=-1;a645=-1;a",
    "647=-1;a649=-1;a64b=-1;a64d=-1;a64f=-1;a651=-1;a653=-1;a655=-1;a657=-1;a659=-1;a65b=-1;a65d=-1;a",
    "65f=-1;a661=-1;a663=-1;a665=-1;a667=-1;a669=-1;a66b=-1;a66d=-1;a681=-1;a683=-1;a685=-1;a687=-1;a",
    "689=-1;a68b=-1;a68d=-1;a68f=-1;a691=-1;a693=-1;a695=-1;a697=-1;a699=-1;a69b=-1;a723=-1;a725=-1;a",
    "727=-1;a729=-1;a72b=-1;a72d=-1;a72f=-1;a733=-1;a735=-1;a737=-1;a739=-1;a73b=-1;a73d=-1;a73f=-1;a",
    "741=-1;a743=-1;a745=-1;a747=-1;a749=-1;a74b=-1;a74d=-1;a74f=-1;a751=-1;a753=-1;a755=-1;a757=-1;a",
    "759=-1;a75b=-1;a75d=-1;a75f=-1;a761=-1;a763=-1;a765=-1;a767=-1;a769=-1;a76b=-1;a76d=-1;a76f=-1;a",
    "77a=-1;a77c=-1;a77f=-1;a781=-1;a783=-1;a785=-1;a787=-1;a78c=-1;a791=-1;a793=-1;a794=+30;a797=-1;",
    "a799=-1;a79b=-1;a79d=-1;a79f=-1;a7a1=-1;a7a3=-1;a7a5=-1;a7a7=-1;a7a9=-1;a7b5=-1;a7b7=-1;a7b9=-1;",
    "a7bb=-1;a7bd=-1;a7bf=-1;a7c1=-1;a7c3=-1;a7c8=-1;a7ca=-1;a7cd=-1;a7d1=-1;a7d7=-1;a7d9=-1;a7db=-1;",
    "a7f6=-1;ab53=-3a0;ab70-abbf=-97d0;fb00=46 46;fb01=46 49;fb02=46 4c;fb03=46 46 49;fb04=46 46 4c;f",
    "b05=53 54;fb06=53 54;fb13=544 546;fb14=544 535;fb15=544 53b;fb16=54e 546;fb17=544 53d;ff41-ff5a=",
    "-20;10428-1044f=-28;104d8-104fb=-28;10597-105a1=-27;105a3-105b1=-27;105b3-105b9=-27;105bb-105bc=",
    "-27;10cc0-10cf2=-40;10d70-10d85=-20;118c0-118df=-20;16e60-16e7f=-20;1e922-1e943=-22"]

end RepoRouting.Unicode
