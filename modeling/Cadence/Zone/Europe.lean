/-
The zones of Europe and Africa.

Each zone is given by its offset ahead of all changes, its changes as pairs of
a second of universal time and the offset from then on, and the rule behind the
last change.
-/
import Cadence.Zone.Basic

set_option autoImplicit false
set_option maxRecDepth 4000

namespace Cadence.Zone.Europe

def berlin : Zone :=
  { name := "Europe/Berlin"
    first := 3208
    changes := [
    ⟨-2422054408, 3600⟩, ⟨-1693706400, 7200⟩, ⟨-1680483600, 3600⟩, ⟨-1663455600, 7200⟩,
    ⟨-1650150000, 3600⟩, ⟨-1632006000, 7200⟩, ⟨-1618700400, 3600⟩, ⟨-938905200, 7200⟩,
    ⟨-857257200, 3600⟩, ⟨-844556400, 7200⟩, ⟨-828226800, 3600⟩, ⟨-812502000, 7200⟩,
    ⟨-796777200, 3600⟩, ⟨-781052400, 7200⟩, ⟨-776563200, 10800⟩, ⟨-765936000, 7200⟩,
    ⟨-761180400, 3600⟩, ⟨-748479600, 7200⟩, ⟨-733273200, 3600⟩, ⟨-717631200, 7200⟩,
    ⟨-714610800, 10800⟩, ⟨-710380800, 7200⟩, ⟨-701910000, 3600⟩, ⟨-684975600, 7200⟩,
    ⟨-670460400, 3600⟩, ⟨-654130800, 7200⟩, ⟨-639010800, 3600⟩, ⟨323830800, 7200⟩,
    ⟨338950800, 3600⟩, ⟨354675600, 7200⟩, ⟨370400400, 3600⟩, ⟨386125200, 7200⟩, ⟨401850000, 3600⟩,
    ⟨417574800, 7200⟩, ⟨433299600, 3600⟩, ⟨449024400, 7200⟩, ⟨465354000, 3600⟩, ⟨481078800, 7200⟩,
    ⟨496803600, 3600⟩, ⟨512528400, 7200⟩, ⟨528253200, 3600⟩, ⟨543978000, 7200⟩, ⟨559702800, 3600⟩,
    ⟨575427600, 7200⟩, ⟨591152400, 3600⟩, ⟨606877200, 7200⟩, ⟨622602000, 3600⟩, ⟨638326800, 7200⟩,
    ⟨654656400, 3600⟩, ⟨670381200, 7200⟩, ⟨686106000, 3600⟩, ⟨701830800, 7200⟩, ⟨717555600, 3600⟩,
    ⟨733280400, 7200⟩, ⟨749005200, 3600⟩, ⟨764730000, 7200⟩, ⟨780454800, 3600⟩, ⟨796179600, 7200⟩,
    ⟨811904400, 3600⟩, ⟨828234000, 7200⟩]
    rule := .yearly 3600 7200 ⟨3, 5, 0, 7200⟩ ⟨10, 5, 0, 10800⟩ }

def london : Zone :=
  { name := "Europe/London"
    first := -75
    changes := [
    ⟨-3852662325, 0⟩, ⟨-1691964000, 3600⟩, ⟨-1680472800, 0⟩, ⟨-1664143200, 3600⟩,
    ⟨-1650146400, 0⟩, ⟨-1633903200, 3600⟩, ⟨-1617487200, 0⟩, ⟨-1601848800, 3600⟩,
    ⟨-1586037600, 0⟩, ⟨-1570399200, 3600⟩, ⟨-1552168800, 0⟩, ⟨-1538344800, 3600⟩,
    ⟨-1522533600, 0⟩, ⟨-1507500000, 3600⟩, ⟨-1490565600, 0⟩, ⟨-1473631200, 3600⟩,
    ⟨-1460930400, 0⟩, ⟨-1442786400, 3600⟩, ⟨-1428876000, 0⟩, ⟨-1410732000, 3600⟩,
    ⟨-1396216800, 0⟩, ⟨-1379282400, 3600⟩, ⟨-1364767200, 0⟩, ⟨-1348437600, 3600⟩,
    ⟨-1333317600, 0⟩, ⟨-1315778400, 3600⟩, ⟨-1301263200, 0⟩, ⟨-1284328800, 3600⟩,
    ⟨-1269813600, 0⟩, ⟨-1253484000, 3600⟩, ⟨-1238364000, 0⟩, ⟨-1221429600, 3600⟩,
    ⟨-1206914400, 0⟩, ⟨-1189980000, 3600⟩, ⟨-1175464800, 0⟩, ⟨-1159135200, 3600⟩,
    ⟨-1143410400, 0⟩, ⟨-1126476000, 3600⟩, ⟨-1111960800, 0⟩, ⟨-1095631200, 3600⟩,
    ⟨-1080511200, 0⟩, ⟨-1063576800, 3600⟩, ⟨-1049061600, 0⟩, ⟨-1032127200, 3600⟩,
    ⟨-1017612000, 0⟩, ⟨-1001282400, 3600⟩, ⟨-986162400, 0⟩, ⟨-969228000, 3600⟩, ⟨-950479200, 0⟩,
    ⟨-942012000, 3600⟩, ⟨-904518000, 7200⟩, ⟨-896050800, 3600⟩, ⟨-875487600, 7200⟩,
    ⟨-864601200, 3600⟩, ⟨-844038000, 7200⟩, ⟨-832546800, 3600⟩, ⟨-812588400, 7200⟩,
    ⟨-798073200, 3600⟩, ⟨-781052400, 7200⟩, ⟨-772066800, 3600⟩, ⟨-764805600, 0⟩,
    ⟨-748476000, 3600⟩, ⟨-733356000, 0⟩, ⟨-719445600, 3600⟩, ⟨-717030000, 7200⟩,
    ⟨-706748400, 3600⟩, ⟨-699487200, 0⟩, ⟨-687996000, 3600⟩, ⟨-668037600, 0⟩, ⟨-654732000, 3600⟩,
    ⟨-636588000, 0⟩, ⟨-622072800, 3600⟩, ⟨-605743200, 0⟩, ⟨-590623200, 3600⟩, ⟨-574293600, 0⟩,
    ⟨-558568800, 3600⟩, ⟨-542239200, 0⟩, ⟨-527119200, 3600⟩, ⟨-512604000, 0⟩, ⟨-496274400, 3600⟩,
    ⟨-481154400, 0⟩, ⟨-464220000, 3600⟩, ⟨-449704800, 0⟩, ⟨-432165600, 3600⟩, ⟨-417650400, 0⟩,
    ⟨-401320800, 3600⟩, ⟨-386200800, 0⟩, ⟨-369266400, 3600⟩, ⟨-354751200, 0⟩, ⟨-337816800, 3600⟩,
    ⟨-323301600, 0⟩, ⟨-306972000, 3600⟩, ⟨-291852000, 0⟩, ⟨-276732000, 3600⟩, ⟨-257983200, 0⟩,
    ⟨-245282400, 3600⟩, ⟨-226533600, 0⟩, ⟨-213228000, 3600⟩, ⟨-195084000, 0⟩, ⟨-182383200, 3600⟩,
    ⟨-163634400, 0⟩, ⟨-150933600, 3600⟩, ⟨-132184800, 0⟩, ⟨-119484000, 3600⟩, ⟨-100735200, 0⟩,
    ⟨-88034400, 3600⟩, ⟨-68680800, 0⟩, ⟨-59004000, 3600⟩, ⟨57722400, 0⟩, ⟨69818400, 3600⟩,
    ⟨89172000, 0⟩, ⟨101268000, 3600⟩, ⟨120621600, 0⟩, ⟨132717600, 3600⟩, ⟨152071200, 0⟩,
    ⟨164167200, 3600⟩, ⟨183520800, 0⟩, ⟨196221600, 3600⟩, ⟨214970400, 0⟩, ⟨227671200, 3600⟩,
    ⟨246420000, 0⟩, ⟨259120800, 3600⟩, ⟨278474400, 0⟩, ⟨290570400, 3600⟩, ⟨309924000, 0⟩,
    ⟨322020000, 3600⟩, ⟨341373600, 0⟩, ⟨354675600, 3600⟩, ⟨372819600, 0⟩, ⟨386125200, 3600⟩,
    ⟨404269200, 0⟩, ⟨417574800, 3600⟩, ⟨435718800, 0⟩, ⟨449024400, 3600⟩, ⟨467773200, 0⟩,
    ⟨481078800, 3600⟩, ⟨499222800, 0⟩, ⟨512528400, 3600⟩, ⟨530672400, 0⟩, ⟨543978000, 3600⟩,
    ⟨562122000, 0⟩, ⟨575427600, 3600⟩, ⟨593571600, 0⟩, ⟨606877200, 3600⟩, ⟨625626000, 0⟩,
    ⟨638326800, 3600⟩, ⟨657075600, 0⟩, ⟨670381200, 3600⟩, ⟨688525200, 0⟩, ⟨701830800, 3600⟩,
    ⟨719974800, 0⟩, ⟨733280400, 3600⟩, ⟨751424400, 0⟩, ⟨764730000, 3600⟩, ⟨782874000, 0⟩,
    ⟨796179600, 3600⟩, ⟨814323600, 0⟩, ⟨820454400, 0⟩]
    rule := .yearly 0 3600 ⟨3, 5, 0, 3600⟩ ⟨10, 5, 0, 7200⟩ }

def lisbon : Zone :=
  { name := "Europe/Lisbon"
    first := -2205
    changes := [
    ⟨-1830384000, 0⟩, ⟨-1689555600, 3600⟩, ⟨-1677801600, 0⟩, ⟨-1667433600, 3600⟩,
    ⟨-1647738000, 0⟩, ⟨-1635897600, 3600⟩, ⟨-1616202000, 0⟩, ⟨-1604361600, 3600⟩,
    ⟨-1584666000, 0⟩, ⟨-1572739200, 3600⟩, ⟨-1553043600, 0⟩, ⟨-1541203200, 3600⟩,
    ⟨-1521507600, 0⟩, ⟨-1442451600, 3600⟩, ⟨-1427677200, 0⟩, ⟨-1379293200, 3600⟩,
    ⟨-1364778000, 0⟩, ⟨-1348448400, 3600⟩, ⟨-1333328400, 0⟩, ⟨-1316394000, 3600⟩,
    ⟨-1301274000, 0⟩, ⟨-1284339600, 3600⟩, ⟨-1269824400, 0⟩, ⟨-1221440400, 3600⟩,
    ⟨-1206925200, 0⟩, ⟨-1191200400, 3600⟩, ⟨-1175475600, 0⟩, ⟨-1127696400, 3600⟩,
    ⟨-1111971600, 0⟩, ⟨-1096851600, 3600⟩, ⟨-1080522000, 0⟩, ⟨-1063587600, 3600⟩,
    ⟨-1049072400, 0⟩, ⟨-1033347600, 3600⟩, ⟨-1017622800, 0⟩, ⟨-1002502800, 3600⟩, ⟨-986173200, 0⟩,
    ⟨-969238800, 3600⟩, ⟨-950490000, 0⟩, ⟨-942022800, 3600⟩, ⟨-922496400, 0⟩, ⟨-906944400, 3600⟩,
    ⟨-891133200, 0⟩, ⟨-877309200, 3600⟩, ⟨-873684000, 7200⟩, ⟨-864007200, 3600⟩, ⟨-857955600, 0⟩,
    ⟨-845859600, 3600⟩, ⟨-842839200, 7200⟩, ⟨-831348000, 3600⟩, ⟨-825901200, 0⟩,
    ⟨-814410000, 3600⟩, ⟨-810784800, 7200⟩, ⟨-799898400, 3600⟩, ⟨-794451600, 0⟩,
    ⟨-782960400, 3600⟩, ⟨-779335200, 7200⟩, ⟨-768448800, 3600⟩, ⟨-763002000, 0⟩,
    ⟨-749091600, 3600⟩, ⟨-733366800, 0⟩, ⟨-717631200, 3600⟩, ⟨-701906400, 0⟩, ⟨-686181600, 3600⟩,
    ⟨-670456800, 0⟩, ⟨-654732000, 3600⟩, ⟨-639007200, 0⟩, ⟨-623282400, 3600⟩, ⟨-607557600, 0⟩,
    ⟨-591832800, 3600⟩, ⟨-575503200, 0⟩, ⟨-559778400, 3600⟩, ⟨-544053600, 0⟩, ⟨-528328800, 3600⟩,
    ⟨-512604000, 0⟩, ⟨-496879200, 3600⟩, ⟨-481154400, 0⟩, ⟨-465429600, 3600⟩, ⟨-449704800, 0⟩,
    ⟨-433980000, 3600⟩, ⟨-417650400, 0⟩, ⟨-401925600, 3600⟩, ⟨-386200800, 0⟩, ⟨-370476000, 3600⟩,
    ⟨-354751200, 0⟩, ⟨-339026400, 3600⟩, ⟨-323301600, 0⟩, ⟨-307576800, 3600⟩, ⟨-291852000, 0⟩,
    ⟨-276127200, 3600⟩, ⟨-260402400, 0⟩, ⟨-244677600, 3600⟩, ⟨-228348000, 0⟩, ⟨-212623200, 3600⟩,
    ⟨-196898400, 0⟩, ⟨-181173600, 3600⟩, ⟨-165448800, 0⟩, ⟨-149724000, 3600⟩, ⟨-133999200, 0⟩,
    ⟨-118274400, 3600⟩, ⟨212544000, 0⟩, ⟨228268800, 3600⟩, ⟨243993600, 0⟩, ⟨260326800, 3600⟩,
    ⟨276051600, 0⟩, ⟨291776400, 3600⟩, ⟨307501200, 0⟩, ⟨323830800, 3600⟩, ⟨338950800, 0⟩,
    ⟨354672000, 3600⟩, ⟨370396800, 0⟩, ⟨386121600, 3600⟩, ⟨401846400, 0⟩, ⟨417571200, 3600⟩,
    ⟨433296000, 0⟩, ⟨449020800, 3600⟩, ⟨465350400, 0⟩, ⟨481075200, 3600⟩, ⟨496800000, 0⟩,
    ⟨512528400, 3600⟩, ⟨528253200, 0⟩, ⟨543978000, 3600⟩, ⟨559702800, 0⟩, ⟨575427600, 3600⟩,
    ⟨591152400, 0⟩, ⟨606877200, 3600⟩, ⟨622602000, 0⟩, ⟨638326800, 3600⟩, ⟨654656400, 0⟩,
    ⟨670381200, 3600⟩, ⟨686106000, 0⟩, ⟨701830800, 3600⟩, ⟨733280400, 7200⟩, ⟨749005200, 3600⟩,
    ⟨764730000, 7200⟩, ⟨780454800, 3600⟩, ⟨796179600, 7200⟩, ⟨811904400, 3600⟩, ⟨828234000, 3600⟩]
    rule := .yearly 0 3600 ⟨3, 5, 0, 3600⟩ ⟨10, 5, 0, 7200⟩ }

def dublin : Zone :=
  { name := "Europe/Dublin"
    first := -1521
    changes := [
    ⟨-1691962479, 2079⟩, ⟨-1680471279, 0⟩, ⟨-1664143200, 3600⟩, ⟨-1650146400, 0⟩,
    ⟨-1633903200, 3600⟩, ⟨-1617487200, 0⟩, ⟨-1601848800, 3600⟩, ⟨-1586037600, 0⟩,
    ⟨-1570399200, 3600⟩, ⟨-1552168800, 0⟩, ⟨-1538344800, 3600⟩, ⟨-1522533600, 0⟩,
    ⟨-1507500000, 3600⟩, ⟨-1490565600, 0⟩, ⟨-1473631200, 3600⟩, ⟨-1460930400, 0⟩,
    ⟨-1442786400, 3600⟩, ⟨-1428876000, 0⟩, ⟨-1410732000, 3600⟩, ⟨-1397426400, 0⟩,
    ⟨-1379282400, 3600⟩, ⟨-1364767200, 0⟩, ⟨-1348437600, 3600⟩, ⟨-1333317600, 0⟩,
    ⟨-1315778400, 3600⟩, ⟨-1301263200, 0⟩, ⟨-1284328800, 3600⟩, ⟨-1269813600, 0⟩,
    ⟨-1253484000, 3600⟩, ⟨-1238364000, 0⟩, ⟨-1221429600, 3600⟩, ⟨-1206914400, 0⟩,
    ⟨-1189980000, 3600⟩, ⟨-1175464800, 0⟩, ⟨-1159135200, 3600⟩, ⟨-1143410400, 0⟩,
    ⟨-1126476000, 3600⟩, ⟨-1111960800, 0⟩, ⟨-1095631200, 3600⟩, ⟨-1080511200, 0⟩,
    ⟨-1063576800, 3600⟩, ⟨-1049061600, 0⟩, ⟨-1032127200, 3600⟩, ⟨-1017612000, 0⟩,
    ⟨-1001282400, 3600⟩, ⟨-986162400, 0⟩, ⟨-969228000, 3600⟩, ⟨-950479200, 0⟩, ⟨-942012000, 3600⟩,
    ⟨-733356000, 0⟩, ⟨-719445600, 3600⟩, ⟨-699487200, 0⟩, ⟨-684972000, 3600⟩, ⟨-668037600, 0⟩,
    ⟨-654732000, 3600⟩, ⟨-636588000, 0⟩, ⟨-622072800, 3600⟩, ⟨-605743200, 0⟩, ⟨-590623200, 3600⟩,
    ⟨-574293600, 0⟩, ⟨-558568800, 3600⟩, ⟨-542239200, 0⟩, ⟨-527119200, 3600⟩, ⟨-512604000, 0⟩,
    ⟨-496274400, 3600⟩, ⟨-481154400, 0⟩, ⟨-464220000, 3600⟩, ⟨-449704800, 0⟩, ⟨-432165600, 3600⟩,
    ⟨-417650400, 0⟩, ⟨-401320800, 3600⟩, ⟨-386200800, 0⟩, ⟨-369266400, 3600⟩, ⟨-354751200, 0⟩,
    ⟨-337816800, 3600⟩, ⟨-323301600, 0⟩, ⟨-306972000, 3600⟩, ⟨-291852000, 0⟩, ⟨-276732000, 3600⟩,
    ⟨-257983200, 0⟩, ⟨-245282400, 3600⟩, ⟨-226533600, 0⟩, ⟨-213228000, 3600⟩, ⟨-195084000, 0⟩,
    ⟨-182383200, 3600⟩, ⟨-163634400, 0⟩, ⟨-150933600, 3600⟩, ⟨-132184800, 0⟩, ⟨-119484000, 3600⟩,
    ⟨-100735200, 0⟩, ⟨-88034400, 3600⟩, ⟨-68680800, 0⟩, ⟨-59004000, 3600⟩, ⟨57722400, 0⟩,
    ⟨69818400, 3600⟩, ⟨89172000, 0⟩, ⟨101268000, 3600⟩, ⟨120621600, 0⟩, ⟨132717600, 3600⟩,
    ⟨152071200, 0⟩, ⟨164167200, 3600⟩, ⟨183520800, 0⟩, ⟨196221600, 3600⟩, ⟨214970400, 0⟩,
    ⟨227671200, 3600⟩, ⟨246420000, 0⟩, ⟨259120800, 3600⟩, ⟨278474400, 0⟩, ⟨290570400, 3600⟩,
    ⟨309924000, 0⟩, ⟨322020000, 3600⟩, ⟨341373600, 0⟩, ⟨354675600, 3600⟩, ⟨372819600, 0⟩,
    ⟨386125200, 3600⟩, ⟨404269200, 0⟩, ⟨417574800, 3600⟩, ⟨435718800, 0⟩, ⟨449024400, 3600⟩,
    ⟨467773200, 0⟩, ⟨481078800, 3600⟩, ⟨499222800, 0⟩, ⟨512528400, 3600⟩, ⟨530672400, 0⟩,
    ⟨543978000, 3600⟩, ⟨562122000, 0⟩, ⟨575427600, 3600⟩, ⟨593571600, 0⟩, ⟨606877200, 3600⟩,
    ⟨625626000, 0⟩, ⟨638326800, 3600⟩, ⟨657075600, 0⟩, ⟨670381200, 3600⟩, ⟨688525200, 0⟩,
    ⟨701830800, 3600⟩, ⟨719974800, 0⟩, ⟨733280400, 3600⟩, ⟨751424400, 0⟩, ⟨764730000, 3600⟩,
    ⟨782874000, 0⟩, ⟨796179600, 3600⟩, ⟨814323600, 0⟩, ⟨828234000, 3600⟩]
    rule := .yearly 3600 0 ⟨10, 5, 0, 7200⟩ ⟨3, 5, 0, 3600⟩ }

def casablanca : Zone :=
  { name := "Africa/Casablanca"
    first := -1820
    changes := [
    ⟨-1773012580, 0⟩, ⟨-956361600, 3600⟩, ⟨-950490000, 0⟩, ⟨-942019200, 3600⟩, ⟨-761187600, 0⟩,
    ⟨-617241600, 3600⟩, ⟨-605149200, 0⟩, ⟨-81432000, 3600⟩, ⟨-71110800, 0⟩, ⟨141264000, 3600⟩,
    ⟨147222000, 0⟩, ⟨199756800, 3600⟩, ⟨207702000, 0⟩, ⟨231292800, 3600⟩, ⟨244249200, 0⟩,
    ⟨265507200, 3600⟩, ⟨271033200, 0⟩, ⟨448243200, 3600⟩, ⟨504918000, 0⟩, ⟨1212278400, 3600⟩,
    ⟨1220223600, 0⟩, ⟨1243814400, 3600⟩, ⟨1250809200, 0⟩, ⟨1272758400, 3600⟩, ⟨1281222000, 0⟩,
    ⟨1301788800, 3600⟩, ⟨1312066800, 0⟩, ⟨1335664800, 3600⟩, ⟨1342749600, 0⟩, ⟨1345428000, 3600⟩,
    ⟨1348970400, 0⟩, ⟨1367114400, 3600⟩, ⟨1373162400, 0⟩, ⟨1376100000, 3600⟩, ⟨1382839200, 0⟩,
    ⟨1396144800, 3600⟩, ⟨1403920800, 0⟩, ⟨1406944800, 3600⟩, ⟨1414288800, 0⟩, ⟨1427594400, 3600⟩,
    ⟨1434247200, 0⟩, ⟨1437271200, 3600⟩, ⟨1445738400, 0⟩, ⟨1459044000, 3600⟩, ⟨1465092000, 0⟩,
    ⟨1468116000, 3600⟩, ⟨1477792800, 0⟩, ⟨1490493600, 3600⟩, ⟨1495332000, 0⟩, ⟨1498960800, 3600⟩,
    ⟨1509242400, 0⟩, ⟨1521943200, 3600⟩, ⟨1526176800, 0⟩, ⟨1529200800, 3600⟩, ⟨1557021600, 0⟩,
    ⟨1560045600, 3600⟩, ⟨1587261600, 0⟩, ⟨1590890400, 3600⟩, ⟨1618106400, 0⟩, ⟨1621130400, 3600⟩,
    ⟨1648346400, 0⟩, ⟨1651975200, 3600⟩, ⟨1679191200, 0⟩, ⟨1682215200, 3600⟩, ⟨1710036000, 0⟩,
    ⟨1713060000, 3600⟩, ⟨1740276000, 0⟩, ⟨1743904800, 3600⟩, ⟨1771120800, 0⟩, ⟨1774144800, 3600⟩,
    ⟨1789866000, 0⟩]
    rule := .always 0 }

def monrovia : Zone :=
  { name := "Africa/Monrovia"
    first := -2588
    changes := [
    ⟨-1604359012, -2670⟩, ⟨63593070, 0⟩]
    rule := .always 0 }

def troll : Zone :=
  { name := "Antarctica/Troll"
    first := 0
    changes := [
    ⟨1108166400, 0⟩]
    rule := .yearly 0 7200 ⟨3, 5, 0, 3600⟩ ⟨10, 5, 0, 10800⟩ }

end Cadence.Zone.Europe
