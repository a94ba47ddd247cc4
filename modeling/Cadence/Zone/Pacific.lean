/-
The zones of Asia, Australia and the Pacific.

Each zone is given by its offset ahead of all changes, its changes as pairs of
a second of universal time and the offset from then on, and the rule behind the
last change.
-/
import Cadence.Zone.Basic

set_option autoImplicit false
set_option maxRecDepth 4000

namespace Cadence.Zone.Pacific

def tokyo : Zone :=
  { name := "Asia/Tokyo"
    first := 33539
    changes := [
    ⟨-2587712400, 32400⟩, ⟨-683802000, 36000⟩, ⟨-672310800, 32400⟩, ⟨-654771600, 36000⟩,
    ⟨-640861200, 32400⟩, ⟨-620298000, 36000⟩, ⟨-609411600, 32400⟩, ⟨-588848400, 36000⟩,
    ⟨-577962000, 32400⟩]
    rule := .always 32400 }

def kolkata : Zone :=
  { name := "Asia/Kolkata"
    first := 21208
    changes := [
    ⟨-3645237208, 21200⟩, ⟨-3155694800, 19270⟩, ⟨-2019705670, 19800⟩, ⟨-891581400, 23400⟩,
    ⟨-872058600, 19800⟩, ⟨-862637400, 23400⟩, ⟨-764145000, 19800⟩]
    rule := .always 19800 }

def kathmandu : Zone :=
  { name := "Asia/Kathmandu"
    first := 20476
    changes := [
    ⟨-1577943676, 19800⟩, ⟨504901800, 20700⟩]
    rule := .always 20700 }

def seoul : Zone :=
  { name := "Asia/Seoul"
    first := 30472
    changes := [
    ⟨-1948782472, 30600⟩, ⟨-1830414600, 32400⟩, ⟨-681210000, 36000⟩, ⟨-672228000, 32400⟩,
    ⟨-654771600, 36000⟩, ⟨-640864800, 32400⟩, ⟨-623408400, 36000⟩, ⟨-609415200, 32400⟩,
    ⟨-588848400, 36000⟩, ⟨-577965600, 32400⟩, ⟨-498128400, 30600⟩, ⟨-462702600, 34200⟩,
    ⟨-451733400, 30600⟩, ⟨-429784200, 34200⟩, ⟨-418296600, 30600⟩, ⟨-399544200, 34200⟩,
    ⟨-387451800, 30600⟩, ⟨-368094600, 34200⟩, ⟨-356002200, 30600⟩, ⟨-336645000, 34200⟩,
    ⟨-324552600, 30600⟩, ⟨-305195400, 34200⟩, ⟨-293103000, 30600⟩, ⟨-264933000, 32400⟩,
    ⟨547578000, 36000⟩, ⟨560883600, 32400⟩, ⟨579027600, 36000⟩, ⟨592333200, 32400⟩]
    rule := .always 32400 }

def pyongyang : Zone :=
  { name := "Asia/Pyongyang"
    first := 30180
    changes := [
    ⟨-1948782180, 30600⟩, ⟨-1830414600, 32400⟩, ⟨1439564400, 30600⟩, ⟨1525446000, 32400⟩]
    rule := .always 32400 }

def sydney : Zone :=
  { name := "Australia/Sydney"
    first := 36292
    changes := [
    ⟨-2364113092, 36000⟩, ⟨-1672560000, 39600⟩, ⟨-1665388800, 36000⟩, ⟨-883641600, 39600⟩,
    ⟨-876124800, 36000⟩, ⟨-860400000, 39600⟩, ⟨-844675200, 36000⟩, ⟨-828345600, 39600⟩,
    ⟨-813225600, 36000⟩, ⟨57686400, 39600⟩, ⟨67968000, 36000⟩, ⟨89136000, 39600⟩,
    ⟨100022400, 36000⟩, ⟨120585600, 39600⟩, ⟨131472000, 36000⟩, ⟨152035200, 39600⟩,
    ⟨162921600, 36000⟩, ⟨183484800, 39600⟩, ⟨194976000, 36000⟩, ⟨215539200, 39600⟩,
    ⟨226425600, 36000⟩, ⟨246988800, 39600⟩, ⟨257875200, 36000⟩, ⟨278438400, 39600⟩,
    ⟨289324800, 36000⟩, ⟨309888000, 39600⟩, ⟨320774400, 36000⟩, ⟨341337600, 39600⟩,
    ⟨352224000, 36000⟩, ⟨372787200, 39600⟩, ⟨386697600, 36000⟩, ⟨404841600, 39600⟩,
    ⟨415728000, 36000⟩, ⟨436291200, 39600⟩, ⟨447177600, 36000⟩, ⟨467740800, 39600⟩,
    ⟨478627200, 36000⟩, ⟨499190400, 39600⟩, ⟨511286400, 36000⟩, ⟨530035200, 39600⟩,
    ⟨542736000, 36000⟩, ⟨562089600, 39600⟩, ⟨574790400, 36000⟩, ⟨594144000, 39600⟩,
    ⟨606240000, 36000⟩, ⟨625593600, 39600⟩, ⟨636480000, 36000⟩, ⟨657043200, 39600⟩,
    ⟨667929600, 36000⟩, ⟨688492800, 39600⟩, ⟨699379200, 36000⟩, ⟨719942400, 39600⟩,
    ⟨731433600, 36000⟩, ⟨751996800, 39600⟩, ⟨762883200, 36000⟩, ⟨783446400, 39600⟩,
    ⟨794332800, 36000⟩, ⟨814896000, 39600⟩, ⟨828201600, 36000⟩, ⟨846345600, 39600⟩,
    ⟨859651200, 36000⟩, ⟨877795200, 39600⟩, ⟨891100800, 36000⟩, ⟨909244800, 39600⟩,
    ⟨922550400, 36000⟩, ⟨941299200, 39600⟩, ⟨954000000, 36000⟩, ⟨967305600, 39600⟩,
    ⟨985449600, 36000⟩, ⟨1004198400, 39600⟩, ⟨1017504000, 36000⟩, ⟨1035648000, 39600⟩,
    ⟨1048953600, 36000⟩, ⟨1067097600, 39600⟩, ⟨1080403200, 36000⟩, ⟨1099152000, 39600⟩,
    ⟨1111852800, 36000⟩, ⟨1130601600, 39600⟩, ⟨1143907200, 36000⟩, ⟨1162051200, 39600⟩,
    ⟨1174752000, 36000⟩, ⟨1193500800, 39600⟩, ⟨1207411200, 36000⟩]
    rule := .yearly 36000 39600 ⟨10, 1, 0, 7200⟩ ⟨4, 1, 0, 10800⟩ }

def lordHowe : Zone :=
  { name := "Australia/Lord_Howe"
    first := 38180
    changes := [
    ⟨-2364114980, 36000⟩, ⟨352216800, 37800⟩, ⟨372785400, 41400⟩, ⟨384273000, 37800⟩,
    ⟨404839800, 41400⟩, ⟨415722600, 37800⟩, ⟨436289400, 41400⟩, ⟨447172200, 37800⟩,
    ⟨467739000, 41400⟩, ⟨478621800, 37800⟩, ⟨499188600, 39600⟩, ⟨511282800, 37800⟩,
    ⟨530033400, 39600⟩, ⟨542732400, 37800⟩, ⟨562087800, 39600⟩, ⟨574786800, 37800⟩,
    ⟨594142200, 39600⟩, ⟨606236400, 37800⟩, ⟨625591800, 39600⟩, ⟨636476400, 37800⟩,
    ⟨657041400, 39600⟩, ⟨667926000, 37800⟩, ⟨688491000, 39600⟩, ⟨699375600, 37800⟩,
    ⟨719940600, 39600⟩, ⟨731430000, 37800⟩, ⟨751995000, 39600⟩, ⟨762879600, 37800⟩,
    ⟨783444600, 39600⟩, ⟨794329200, 37800⟩, ⟨814894200, 39600⟩, ⟨828198000, 37800⟩,
    ⟨846343800, 39600⟩, ⟨859647600, 37800⟩, ⟨877793400, 39600⟩, ⟨891097200, 37800⟩,
    ⟨909243000, 39600⟩, ⟨922546800, 37800⟩, ⟨941297400, 39600⟩, ⟨953996400, 37800⟩,
    ⟨967303800, 39600⟩, ⟨985446000, 37800⟩, ⟨1004196600, 39600⟩, ⟨1017500400, 37800⟩,
    ⟨1035646200, 39600⟩, ⟨1048950000, 37800⟩, ⟨1067095800, 39600⟩, ⟨1080399600, 37800⟩,
    ⟨1099150200, 39600⟩, ⟨1111849200, 37800⟩, ⟨1130599800, 39600⟩, ⟨1143903600, 37800⟩,
    ⟨1162049400, 39600⟩, ⟨1174748400, 37800⟩, ⟨1193499000, 39600⟩, ⟨1207407600, 37800⟩]
    rule := .yearly 37800 39600 ⟨10, 1, 0, 7200⟩ ⟨4, 1, 0, 7200⟩ }

def apia : Zone :=
  { name := "Pacific/Apia"
    first := 45184
    changes := [
    ⟨-2445424384, -41216⟩, ⟨-1861878784, -41400⟩, ⟨-631110600, -39600⟩, ⟨1285498800, -36000⟩,
    ⟨1301752800, -39600⟩, ⟨1316872800, -36000⟩, ⟨1325239200, 50400⟩, ⟨1333202400, 46800⟩,
    ⟨1348927200, 50400⟩, ⟨1365256800, 46800⟩, ⟨1380376800, 50400⟩, ⟨1396706400, 46800⟩,
    ⟨1411826400, 50400⟩, ⟨1428156000, 46800⟩, ⟨1443276000, 50400⟩, ⟨1459605600, 46800⟩,
    ⟨1474725600, 50400⟩, ⟨1491055200, 46800⟩, ⟨1506175200, 50400⟩, ⟨1522504800, 46800⟩,
    ⟨1538229600, 50400⟩, ⟨1554559200, 46800⟩, ⟨1569679200, 50400⟩, ⟨1586008800, 46800⟩,
    ⟨1601128800, 50400⟩, ⟨1617458400, 46800⟩]
    rule := .always 46800 }

def chatham : Zone :=
  { name := "Pacific/Chatham"
    first := 44028
    changes := [
    ⟨-3192437628, 44100⟩, ⟨-757426500, 45900⟩, ⟨152632800, 49500⟩, ⟨162309600, 45900⟩,
    ⟨183477600, 49500⟩, ⟨194968800, 45900⟩, ⟨215532000, 49500⟩, ⟨226418400, 45900⟩,
    ⟨246981600, 49500⟩, ⟨257868000, 45900⟩, ⟨278431200, 49500⟩, ⟨289317600, 45900⟩,
    ⟨309880800, 49500⟩, ⟨320767200, 45900⟩, ⟨341330400, 49500⟩, ⟨352216800, 45900⟩,
    ⟨372780000, 49500⟩, ⟨384271200, 45900⟩, ⟨404834400, 49500⟩, ⟨415720800, 45900⟩,
    ⟨436284000, 49500⟩, ⟨447170400, 45900⟩, ⟨467733600, 49500⟩, ⟨478620000, 45900⟩,
    ⟨499183200, 49500⟩, ⟨510069600, 45900⟩, ⟨530632800, 49500⟩, ⟨541519200, 45900⟩,
    ⟨562082400, 49500⟩, ⟨573573600, 45900⟩, ⟨594136800, 49500⟩, ⟨605023200, 45900⟩,
    ⟨623772000, 49500⟩, ⟨637682400, 45900⟩, ⟨655221600, 49500⟩, ⟨669132000, 45900⟩,
    ⟨686671200, 49500⟩, ⟨700581600, 45900⟩, ⟨718120800, 49500⟩, ⟨732636000, 45900⟩,
    ⟨749570400, 49500⟩, ⟨764085600, 45900⟩, ⟨781020000, 49500⟩, ⟨795535200, 45900⟩,
    ⟨812469600, 49500⟩, ⟨826984800, 45900⟩, ⟨844524000, 49500⟩, ⟨858434400, 45900⟩,
    ⟨875973600, 49500⟩, ⟨889884000, 45900⟩, ⟨907423200, 49500⟩, ⟨921938400, 45900⟩,
    ⟨938872800, 49500⟩, ⟨953388000, 45900⟩, ⟨970322400, 49500⟩, ⟨984837600, 45900⟩,
    ⟨1002376800, 49500⟩, ⟨1016287200, 45900⟩, ⟨1033826400, 49500⟩, ⟨1047736800, 45900⟩,
    ⟨1065276000, 49500⟩, ⟨1079791200, 45900⟩, ⟨1096725600, 49500⟩, ⟨1111240800, 45900⟩,
    ⟨1128175200, 49500⟩, ⟨1142690400, 45900⟩, ⟨1159624800, 49500⟩, ⟨1174140000, 45900⟩,
    ⟨1191074400, 49500⟩]
    rule := .yearly 45900 49500 ⟨9, 5, 0, 9900⟩ ⟨4, 1, 0, 13500⟩ }

def kiritimati : Zone :=
  { name := "Pacific/Kiritimati"
    first := -37760
    changes := [
    ⟨-2177415040, -38400⟩, ⟨307622400, -36000⟩, ⟨788868000, 50400⟩]
    rule := .always 50400 }

end Cadence.Zone.Pacific
