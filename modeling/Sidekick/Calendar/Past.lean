/-!
# The past of the time zones

How far the clocks of each zone were ahead of universal time until its present rules, from the local
mean time of its city on.
-/

namespace Sidekick.Calendar

/-- A span of time with one offset from universal time, in seconds. It begins where the span before
it ends. -/
structure Span where
  ends : Int
  offset : Int
  deriving DecidableEq

def offset? (spans : List Span) (seconds : Int) : Option Int :=
  (spans.find? (seconds < ·.ends)).map Span.offset

def berlinPast : List Span :=
  [⟨-2422054408, 3208⟩, ⟨-1693706400, 3600⟩, ⟨-1680483600, 7200⟩, ⟨-1663455600, 3600⟩,
   ⟨-1650150000, 7200⟩, ⟨-1632006000, 3600⟩, ⟨-1618700400, 7200⟩, ⟨-938905200, 3600⟩,
   ⟨-857257200, 7200⟩, ⟨-844556400, 3600⟩, ⟨-828226800, 7200⟩, ⟨-812502000, 3600⟩,
   ⟨-796777200, 7200⟩, ⟨-781052400, 3600⟩, ⟨-776563200, 7200⟩, ⟨-765936000, 10800⟩,
   ⟨-761180400, 7200⟩, ⟨-748479600, 3600⟩, ⟨-733273200, 7200⟩, ⟨-717631200, 3600⟩,
   ⟨-714610800, 7200⟩, ⟨-710380800, 10800⟩, ⟨-701910000, 7200⟩, ⟨-684975600, 3600⟩,
   ⟨-670460400, 7200⟩, ⟨-654130800, 3600⟩, ⟨-639010800, 7200⟩, ⟨323830800, 3600⟩,
   ⟨338950800, 7200⟩, ⟨354675600, 3600⟩, ⟨370400400, 7200⟩, ⟨386125200, 3600⟩, ⟨401850000, 7200⟩,
   ⟨417574800, 3600⟩, ⟨433299600, 7200⟩, ⟨449024400, 3600⟩, ⟨465354000, 7200⟩, ⟨481078800, 3600⟩,
   ⟨496803600, 7200⟩, ⟨512528400, 3600⟩, ⟨528253200, 7200⟩, ⟨543978000, 3600⟩, ⟨559702800, 7200⟩,
   ⟨575427600, 3600⟩, ⟨591152400, 7200⟩, ⟨606877200, 3600⟩, ⟨622602000, 7200⟩, ⟨638326800, 3600⟩,
   ⟨654656400, 7200⟩, ⟨670381200, 3600⟩, ⟨686106000, 7200⟩, ⟨701830800, 3600⟩, ⟨717555600, 7200⟩,
   ⟨733280400, 3600⟩, ⟨749005200, 7200⟩, ⟨764730000, 3600⟩, ⟨780454800, 7200⟩, ⟨796179600, 3600⟩,
   ⟨811904400, 7200⟩, ⟨814928400, 3600⟩]

def newYorkPast : List Span :=
  [⟨-2717650800, -17762⟩, ⟨-1633280400, -18000⟩, ⟨-1615140000, -14400⟩, ⟨-1601830800, -18000⟩,
   ⟨-1583690400, -14400⟩, ⟨-1570381200, -18000⟩, ⟨-1551636000, -14400⟩, ⟨-1536512400, -18000⟩,
   ⟨-1523210400, -14400⟩, ⟨-1504458000, -18000⟩, ⟨-1491760800, -14400⟩, ⟨-1473008400, -18000⟩,
   ⟨-1459706400, -14400⟩, ⟨-1441558800, -18000⟩, ⟨-1428256800, -14400⟩, ⟨-1410109200, -18000⟩,
   ⟨-1396807200, -14400⟩, ⟨-1378659600, -18000⟩, ⟨-1365357600, -14400⟩, ⟨-1347210000, -18000⟩,
   ⟨-1333908000, -14400⟩, ⟨-1315155600, -18000⟩, ⟨-1301853600, -14400⟩, ⟨-1283706000, -18000⟩,
   ⟨-1270404000, -14400⟩, ⟨-1252256400, -18000⟩, ⟨-1238954400, -14400⟩, ⟨-1220806800, -18000⟩,
   ⟨-1207504800, -14400⟩, ⟨-1189357200, -18000⟩, ⟨-1176055200, -14400⟩, ⟨-1157302800, -18000⟩,
   ⟨-1144605600, -14400⟩, ⟨-1125853200, -18000⟩, ⟨-1112551200, -14400⟩, ⟨-1094403600, -18000⟩,
   ⟨-1081101600, -14400⟩, ⟨-1062954000, -18000⟩, ⟨-1049652000, -14400⟩, ⟨-1031504400, -18000⟩,
   ⟨-1018202400, -14400⟩, ⟨-1000054800, -18000⟩, ⟨-986752800, -14400⟩, ⟨-968000400, -18000⟩,
   ⟨-955303200, -14400⟩, ⟨-936550800, -18000⟩, ⟨-923248800, -14400⟩, ⟨-905101200, -18000⟩,
   ⟨-891799200, -14400⟩, ⟨-880218000, -18000⟩, ⟨-765396000, -14400⟩, ⟨-747248400, -18000⟩,
   ⟨-733946400, -14400⟩, ⟨-715798800, -18000⟩, ⟨-702496800, -14400⟩, ⟨-684349200, -18000⟩,
   ⟨-671047200, -14400⟩, ⟨-652899600, -18000⟩, ⟨-639597600, -14400⟩, ⟨-620845200, -18000⟩,
   ⟨-608148000, -14400⟩, ⟨-589395600, -18000⟩, ⟨-576093600, -14400⟩, ⟨-557946000, -18000⟩,
   ⟨-544644000, -14400⟩, ⟨-526496400, -18000⟩, ⟨-513194400, -14400⟩, ⟨-495046800, -18000⟩,
   ⟨-481744800, -14400⟩, ⟨-463597200, -18000⟩, ⟨-447271200, -14400⟩, ⟨-431542800, -18000⟩,
   ⟨-415821600, -14400⟩, ⟨-400093200, -18000⟩, ⟨-384372000, -14400⟩, ⟨-368643600, -18000⟩,
   ⟨-352922400, -14400⟩, ⟨-337194000, -18000⟩, ⟨-321472800, -14400⟩, ⟨-305744400, -18000⟩,
   ⟨-289418400, -14400⟩, ⟨-273690000, -18000⟩, ⟨-257968800, -14400⟩, ⟨-242240400, -18000⟩,
   ⟨-226519200, -14400⟩, ⟨-210790800, -18000⟩, ⟨-195069600, -14400⟩, ⟨-179341200, -18000⟩,
   ⟨-163620000, -14400⟩, ⟨-147891600, -18000⟩, ⟨-131565600, -14400⟩, ⟨-116442000, -18000⟩,
   ⟨-100116000, -14400⟩, ⟨-84387600, -18000⟩, ⟨-68666400, -14400⟩, ⟨-52938000, -18000⟩,
   ⟨-37216800, -14400⟩, ⟨-21488400, -18000⟩, ⟨-5767200, -14400⟩, ⟨9961200, -18000⟩,
   ⟨25682400, -14400⟩, ⟨41410800, -18000⟩, ⟨57736800, -14400⟩, ⟨73465200, -18000⟩,
   ⟨89186400, -14400⟩, ⟨104914800, -18000⟩, ⟨120636000, -14400⟩, ⟨126687600, -18000⟩,
   ⟨152085600, -14400⟩, ⟨162370800, -18000⟩, ⟨183535200, -14400⟩, ⟨199263600, -18000⟩,
   ⟨215589600, -14400⟩, ⟨230713200, -18000⟩, ⟨247039200, -14400⟩, ⟨262767600, -18000⟩,
   ⟨278488800, -14400⟩, ⟨294217200, -18000⟩, ⟨309938400, -14400⟩, ⟨325666800, -18000⟩,
   ⟨341388000, -14400⟩, ⟨357116400, -18000⟩, ⟨372837600, -14400⟩, ⟨388566000, -18000⟩,
   ⟨404892000, -14400⟩, ⟨420015600, -18000⟩, ⟨436341600, -14400⟩, ⟨452070000, -18000⟩,
   ⟨467791200, -14400⟩, ⟨483519600, -18000⟩, ⟨499240800, -14400⟩, ⟨514969200, -18000⟩,
   ⟨530690400, -14400⟩, ⟨544604400, -18000⟩, ⟨562140000, -14400⟩, ⟨576054000, -18000⟩,
   ⟨594194400, -14400⟩, ⟨607503600, -18000⟩, ⟨625644000, -14400⟩, ⟨638953200, -18000⟩,
   ⟨657093600, -14400⟩, ⟨671007600, -18000⟩, ⟨688543200, -14400⟩, ⟨702457200, -18000⟩,
   ⟨719992800, -14400⟩, ⟨733906800, -18000⟩, ⟨752047200, -14400⟩, ⟨765356400, -18000⟩,
   ⟨783496800, -14400⟩, ⟨796806000, -18000⟩, ⟨814946400, -14400⟩, ⟨828860400, -18000⟩,
   ⟨846396000, -14400⟩, ⟨860310000, -18000⟩, ⟨877845600, -14400⟩, ⟨891759600, -18000⟩,
   ⟨909295200, -14400⟩, ⟨923209200, -18000⟩, ⟨941349600, -14400⟩, ⟨954658800, -18000⟩,
   ⟨972799200, -14400⟩, ⟨986108400, -18000⟩, ⟨1004248800, -14400⟩, ⟨1018162800, -18000⟩,
   ⟨1035698400, -14400⟩, ⟨1049612400, -18000⟩, ⟨1067148000, -14400⟩, ⟨1081062000, -18000⟩,
   ⟨1099202400, -14400⟩, ⟨1112511600, -18000⟩, ⟨1130652000, -14400⟩, ⟨1143961200, -18000⟩,
   ⟨1162101600, -14400⟩, ⟨1162706400, -18000⟩]

def losAngelesPast : List Span :=
  [⟨-2717640000, -28378⟩, ⟨-1633269600, -28800⟩, ⟨-1615129200, -25200⟩, ⟨-1601820000, -28800⟩,
   ⟨-1583679600, -25200⟩, ⟨-880207200, -28800⟩, ⟨-765385200, -25200⟩, ⟨-687967140, -28800⟩,
   ⟨-662655600, -25200⟩, ⟨-620838000, -28800⟩, ⟨-608137200, -25200⟩, ⟨-589388400, -28800⟩,
   ⟨-576082800, -25200⟩, ⟨-557938800, -28800⟩, ⟨-544633200, -25200⟩, ⟨-526489200, -28800⟩,
   ⟨-513183600, -25200⟩, ⟨-495039600, -28800⟩, ⟨-481734000, -25200⟩, ⟨-463590000, -28800⟩,
   ⟨-450284400, -25200⟩, ⟨-431535600, -28800⟩, ⟨-418230000, -25200⟩, ⟨-400086000, -28800⟩,
   ⟨-386780400, -25200⟩, ⟨-368636400, -28800⟩, ⟨-355330800, -25200⟩, ⟨-337186800, -28800⟩,
   ⟨-323881200, -25200⟩, ⟨-305737200, -28800⟩, ⟨-292431600, -25200⟩, ⟨-273682800, -28800⟩,
   ⟨-260982000, -25200⟩, ⟨-242233200, -28800⟩, ⟨-226508400, -25200⟩, ⟨-210783600, -28800⟩,
   ⟨-195058800, -25200⟩, ⟨-179334000, -28800⟩, ⟨-163609200, -25200⟩, ⟨-147884400, -28800⟩,
   ⟨-131554800, -25200⟩, ⟨-116434800, -28800⟩, ⟨-100105200, -25200⟩, ⟨-84376800, -28800⟩,
   ⟨-68655600, -25200⟩, ⟨-52927200, -28800⟩, ⟨-37206000, -25200⟩, ⟨-21477600, -28800⟩,
   ⟨-5756400, -25200⟩, ⟨9972000, -28800⟩, ⟨25693200, -25200⟩, ⟨41421600, -28800⟩,
   ⟨57747600, -25200⟩, ⟨73476000, -28800⟩, ⟨89197200, -25200⟩, ⟨104925600, -28800⟩,
   ⟨120646800, -25200⟩, ⟨126698400, -28800⟩, ⟨152096400, -25200⟩, ⟨162381600, -28800⟩,
   ⟨183546000, -25200⟩, ⟨199274400, -28800⟩, ⟨215600400, -25200⟩, ⟨230724000, -28800⟩,
   ⟨247050000, -25200⟩, ⟨262778400, -28800⟩, ⟨278499600, -25200⟩, ⟨294228000, -28800⟩,
   ⟨309949200, -25200⟩, ⟨325677600, -28800⟩, ⟨341398800, -25200⟩, ⟨357127200, -28800⟩,
   ⟨372848400, -25200⟩, ⟨388576800, -28800⟩, ⟨404902800, -25200⟩, ⟨420026400, -28800⟩,
   ⟨436352400, -25200⟩, ⟨452080800, -28800⟩, ⟨467802000, -25200⟩, ⟨483530400, -28800⟩,
   ⟨499251600, -25200⟩, ⟨514980000, -28800⟩, ⟨530701200, -25200⟩, ⟨544615200, -28800⟩,
   ⟨562150800, -25200⟩, ⟨576064800, -28800⟩, ⟨594205200, -25200⟩, ⟨607514400, -28800⟩,
   ⟨625654800, -25200⟩, ⟨638964000, -28800⟩, ⟨657104400, -25200⟩, ⟨671018400, -28800⟩,
   ⟨688554000, -25200⟩, ⟨702468000, -28800⟩, ⟨720003600, -25200⟩, ⟨733917600, -28800⟩,
   ⟨752058000, -25200⟩, ⟨765367200, -28800⟩, ⟨783507600, -25200⟩, ⟨796816800, -28800⟩,
   ⟨814957200, -25200⟩, ⟨828871200, -28800⟩, ⟨846406800, -25200⟩, ⟨860320800, -28800⟩,
   ⟨877856400, -25200⟩, ⟨891770400, -28800⟩, ⟨909306000, -25200⟩, ⟨923220000, -28800⟩,
   ⟨941360400, -25200⟩, ⟨954669600, -28800⟩, ⟨972810000, -25200⟩, ⟨986119200, -28800⟩,
   ⟨1004259600, -25200⟩, ⟨1018173600, -28800⟩, ⟨1035709200, -25200⟩, ⟨1049623200, -28800⟩,
   ⟨1067158800, -25200⟩, ⟨1081072800, -28800⟩, ⟨1099213200, -25200⟩, ⟨1112522400, -28800⟩,
   ⟨1130662800, -25200⟩, ⟨1143972000, -28800⟩, ⟨1162112400, -25200⟩, ⟨1162717200, -28800⟩]

def stJohnsPast : List Span :=
  [⟨-1664130548, -12652⟩, ⟨-1650137348, -9052⟩, ⟨-1632076148, -12652⟩, ⟨-1615145348, -9052⟩,
   ⟨-1598650148, -12652⟩, ⟨-1590100148, -9052⟩, ⟨-1567286948, -12652⟩, ⟨-1551565748, -9052⟩,
   ⟨-1535837348, -12652⟩, ⟨-1520116148, -9052⟩, ⟨-1503782948, -12652⟩, ⟨-1488666548, -9052⟩,
   ⟨-1472333348, -12652⟩, ⟨-1457216948, -9052⟩, ⟨-1440883748, -12652⟩, ⟨-1425767348, -9052⟩,
   ⟨-1409434148, -12652⟩, ⟨-1394317748, -9052⟩, ⟨-1377984548, -12652⟩, ⟨-1362263348, -9052⟩,
   ⟨-1346534948, -12652⟩, ⟨-1330813748, -9052⟩, ⟨-1314480548, -12652⟩, ⟨-1299364148, -9052⟩,
   ⟨-1283030948, -12652⟩, ⟨-1267914548, -9052⟩, ⟨-1251581348, -12652⟩, ⟨-1236464948, -9052⟩,
   ⟨-1220131748, -12652⟩, ⟨-1205015348, -9052⟩, ⟨-1188682148, -12652⟩, ⟨-1172960948, -9052⟩,
   ⟨-1156627748, -12652⟩, ⟨-1141511348, -9052⟩, ⟨-1125178148, -12652⟩, ⟨-1110061748, -9052⟩,
   ⟨-1096921748, -12652⟩, ⟨-1093728600, -12600⟩, ⟨-1078612200, -9000⟩, ⟨-1061670600, -12600⟩,
   ⟨-1048973400, -9000⟩, ⟨-1030221000, -12600⟩, ⟨-1017523800, -9000⟩, ⟨-998771400, -12600⟩,
   ⟨-986074200, -9000⟩, ⟨-966717000, -12600⟩, ⟨-954624600, -9000⟩, ⟨-935267400, -12600⟩,
   ⟨-922570200, -9000⟩, ⟨-903817800, -12600⟩, ⟨-891120600, -9000⟩, ⟨-872368200, -12600⟩,
   ⟨-765401400, -9000⟩, ⟨-746044200, -12600⟩, ⟨-733347000, -9000⟩, ⟨-714594600, -12600⟩,
   ⟨-701897400, -9000⟩, ⟨-683145000, -12600⟩, ⟨-670447800, -9000⟩, ⟨-651695400, -12600⟩,
   ⟨-638998200, -9000⟩, ⟨-619641000, -12600⟩, ⟨-606943800, -9000⟩, ⟨-589401000, -12600⟩,
   ⟨-576099000, -9000⟩, ⟨-557951400, -12600⟩, ⟨-544649400, -9000⟩, ⟨-526501800, -12600⟩,
   ⟨-513199800, -9000⟩, ⟨-495052200, -12600⟩, ⟨-481750200, -9000⟩, ⟨-463602600, -12600⟩,
   ⟨-450300600, -9000⟩, ⟨-431548200, -12600⟩, ⟨-418246200, -9000⟩, ⟨-400098600, -12600⟩,
   ⟨-386796600, -9000⟩, ⟨-368649000, -12600⟩, ⟨-355347000, -9000⟩, ⟨-337199400, -12600⟩,
   ⟨-323897400, -9000⟩, ⟨-305749800, -12600⟩, ⟨-289423800, -9000⟩, ⟨-273695400, -12600⟩,
   ⟨-257974200, -9000⟩, ⟨-242245800, -12600⟩, ⟨-226524600, -9000⟩, ⟨-210796200, -12600⟩,
   ⟨-195075000, -9000⟩, ⟨-179346600, -12600⟩, ⟨-163625400, -9000⟩, ⟨-147897000, -12600⟩,
   ⟨-131571000, -9000⟩, ⟨-116447400, -12600⟩, ⟨-100121400, -9000⟩, ⟨-84393000, -12600⟩,
   ⟨-68671800, -9000⟩, ⟨-52943400, -12600⟩, ⟨-37222200, -9000⟩, ⟨-21493800, -12600⟩,
   ⟨-5772600, -9000⟩, ⟨9955800, -12600⟩, ⟨25677000, -9000⟩, ⟨41405400, -12600⟩, ⟨57731400, -9000⟩,
   ⟨73459800, -12600⟩, ⟨89181000, -9000⟩, ⟨104909400, -12600⟩, ⟨120630600, -9000⟩,
   ⟨136359000, -12600⟩, ⟨152080200, -9000⟩, ⟨167808600, -12600⟩, ⟨183529800, -9000⟩,
   ⟨199258200, -12600⟩, ⟨215584200, -9000⟩, ⟨230707800, -12600⟩, ⟨247033800, -9000⟩,
   ⟨262762200, -12600⟩, ⟨278483400, -9000⟩, ⟨294211800, -12600⟩, ⟨309933000, -9000⟩,
   ⟨325661400, -12600⟩, ⟨341382600, -9000⟩, ⟨357111000, -12600⟩, ⟨372832200, -9000⟩,
   ⟨388560600, -12600⟩, ⟨404886600, -9000⟩, ⟨420010200, -12600⟩, ⟨436336200, -9000⟩,
   ⟨452064600, -12600⟩, ⟨467785800, -9000⟩, ⟨483514200, -12600⟩, ⟨499235400, -9000⟩,
   ⟨514963800, -12600⟩, ⟨530685000, -9000⟩, ⟨544591860, -12600⟩, ⟨562127460, -9000⟩,
   ⟨576041460, -12600⟩, ⟨594178260, -5400⟩, ⟨607491060, -12600⟩, ⟨625631460, -9000⟩,
   ⟨638940660, -12600⟩, ⟨657081060, -9000⟩, ⟨670995060, -12600⟩, ⟨688530660, -9000⟩,
   ⟨702444660, -12600⟩, ⟨719980260, -9000⟩, ⟨733894260, -12600⟩, ⟨752034660, -9000⟩,
   ⟨765343860, -12600⟩, ⟨783484260, -9000⟩, ⟨796793460, -12600⟩, ⟨814933860, -9000⟩,
   ⟨828847860, -12600⟩, ⟨846383460, -9000⟩, ⟨860297460, -12600⟩, ⟨877833060, -9000⟩,
   ⟨891747060, -12600⟩, ⟨909282660, -9000⟩, ⟨923196660, -12600⟩, ⟨941337060, -9000⟩,
   ⟨954646260, -12600⟩, ⟨972786660, -9000⟩, ⟨986095860, -12600⟩, ⟨1004236260, -9000⟩,
   ⟨1018150260, -12600⟩, ⟨1035685860, -9000⟩, ⟨1049599860, -12600⟩, ⟨1067135460, -9000⟩,
   ⟨1081049460, -12600⟩, ⟨1099189860, -9000⟩, ⟨1112499060, -12600⟩, ⟨1130639460, -9000⟩,
   ⟨1143948660, -12600⟩, ⟨1162089060, -9000⟩, ⟨1173583860, -12600⟩, ⟨1194143460, -9000⟩,
   ⟨1205033460, -12600⟩, ⟨1225593060, -9000⟩, ⟨1236483060, -12600⟩, ⟨1257042660, -9000⟩,
   ⟨1268537460, -12600⟩, ⟨1289097060, -9000⟩, ⟨1299987060, -12600⟩, ⟨1299994200, -9000⟩]

def sydneyPast : List Span :=
  [⟨-2364113092, 36292⟩, ⟨-1672560000, 36000⟩, ⟨-1665388800, 39600⟩, ⟨-883641600, 36000⟩,
   ⟨-876124800, 39600⟩, ⟨-860400000, 36000⟩, ⟨-844675200, 39600⟩, ⟨-828345600, 36000⟩,
   ⟨-813225600, 39600⟩, ⟨57686400, 36000⟩, ⟨67968000, 39600⟩, ⟨89136000, 36000⟩,
   ⟨100022400, 39600⟩, ⟨120585600, 36000⟩, ⟨131472000, 39600⟩, ⟨152035200, 36000⟩,
   ⟨162921600, 39600⟩, ⟨183484800, 36000⟩, ⟨194976000, 39600⟩, ⟨215539200, 36000⟩,
   ⟨226425600, 39600⟩, ⟨246988800, 36000⟩, ⟨257875200, 39600⟩, ⟨278438400, 36000⟩,
   ⟨289324800, 39600⟩, ⟨309888000, 36000⟩, ⟨320774400, 39600⟩, ⟨341337600, 36000⟩,
   ⟨352224000, 39600⟩, ⟨372787200, 36000⟩, ⟨386697600, 39600⟩, ⟨404841600, 36000⟩,
   ⟨415728000, 39600⟩, ⟨436291200, 36000⟩, ⟨447177600, 39600⟩, ⟨467740800, 36000⟩,
   ⟨478627200, 39600⟩, ⟨499190400, 36000⟩, ⟨511286400, 39600⟩, ⟨530035200, 36000⟩,
   ⟨542736000, 39600⟩, ⟨562089600, 36000⟩, ⟨574790400, 39600⟩, ⟨594144000, 36000⟩,
   ⟨606240000, 39600⟩, ⟨625593600, 36000⟩, ⟨636480000, 39600⟩, ⟨657043200, 36000⟩,
   ⟨667929600, 39600⟩, ⟨688492800, 36000⟩, ⟨699379200, 39600⟩, ⟨719942400, 36000⟩,
   ⟨731433600, 39600⟩, ⟨751996800, 36000⟩, ⟨762883200, 39600⟩, ⟨783446400, 36000⟩,
   ⟨794332800, 39600⟩, ⟨814896000, 36000⟩, ⟨828201600, 39600⟩, ⟨846345600, 36000⟩,
   ⟨859651200, 39600⟩, ⟨877795200, 36000⟩, ⟨891100800, 39600⟩, ⟨909244800, 36000⟩,
   ⟨922550400, 39600⟩, ⟨941299200, 36000⟩, ⟨954000000, 39600⟩, ⟨967305600, 36000⟩,
   ⟨985449600, 39600⟩, ⟨1004198400, 36000⟩, ⟨1017504000, 39600⟩, ⟨1035648000, 36000⟩,
   ⟨1048953600, 39600⟩, ⟨1067097600, 36000⟩, ⟨1080403200, 39600⟩, ⟨1099152000, 36000⟩,
   ⟨1111852800, 39600⟩, ⟨1130601600, 36000⟩, ⟨1143907200, 39600⟩, ⟨1162051200, 36000⟩,
   ⟨1174752000, 39600⟩, ⟨1193500800, 36000⟩]

def kolkataPast : List Span :=
  [⟨-3645237208, 21208⟩, ⟨-3155694800, 21200⟩, ⟨-2019705670, 19270⟩, ⟨-891581400, 19800⟩,
   ⟨-872058600, 23400⟩, ⟨-862637400, 19800⟩, ⟨-764145000, 23400⟩]

def kathmanduPast : List Span :=
  [⟨-1577943676, 20476⟩, ⟨504901800, 19800⟩]

def tokyoPast : List Span :=
  [⟨-2587712400, 33539⟩, ⟨-683802000, 32400⟩, ⟨-672310800, 36000⟩, ⟨-654771600, 32400⟩,
   ⟨-640861200, 36000⟩, ⟨-620298000, 32400⟩, ⟨-609411600, 36000⟩, ⟨-588848400, 32400⟩,
   ⟨-577962000, 36000⟩]

def kiritimatiPast : List Span :=
  [⟨-2177415040, -37760⟩, ⟨307622400, -38400⟩, ⟨788868000, -36000⟩]

end Sidekick.Calendar
