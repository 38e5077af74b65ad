import ReachMixture.Random.Generator

/-!
# Normal numbers

Standard normal numbers by layers of equal area. The area under `exp (-x²/2)` is
covered by 256 layers; a word chooses a layer and a point in it. A point inside
the next narrower layer lies under the curve for sure and is returned at once,
as nearly all points are. The others are compared with the curve, and the bottom
layer has a tail of its own.

- `edges`: where the layers end on the right.
- `normal`: a standard normal number.
-/

namespace ReachMixture.Random

/-- The right edges of the layers, bottom layer first. -/
def edges : Array Float := #[
  3.910757959537090045, 3.654152885361008796, 3.449278298560964462,
  3.320244733839166074, 3.224575052047029100, 3.147889289517149969,
  3.083526132001233044, 3.027837791768635434, 2.978603279880844834,
  2.934366867207854224, 2.894121053612348060, 2.857138730872132548,
  2.822877396825325125, 2.790921174000785765, 2.760944005278822555,
  2.732685359042827056, 2.705933656121858100, 2.680514643284522158,
  2.656283037575502437, 2.633116393630324570, 2.610910518487548515,
  2.589575986706995181, 2.569035452680536569, 2.549221550323460761,
  2.530075232158516929, 2.511544441625342294, 2.493583041269680667,
  2.476149939669143318, 2.459208374333311298, 2.442725318198956774,
  2.426670984935725972, 2.411018413899685520, 2.395743119780480601,
  2.380822795170626005, 2.366237056715818632, 2.351967227377659952,
  2.337996148795031370, 2.324308018869623016, 2.310888250599850036,
  2.297723348901329565, 2.284800802722946056, 2.272108990226823888,
  2.259637095172217780, 2.247375032945807760, 2.235313384928327984,
  2.223443340090905718, 2.211756642882544366, 2.200245546609647995,
  2.188902771624720689, 2.177721467738641614, 2.166695180352645966,
  2.155817819875063268, 2.145083634046203613, 2.134487182844320152,
  2.124023315687815661, 2.113687150684933957, 2.103474055713146829,
  2.093379631137050279, 2.083399693996551783, 2.073530263516978778,
  2.063767547809956415, 2.054107931648864849, 2.044547965215732788,
  2.035084353727808715, 2.025713947862032960, 2.016433734904371722,
  2.007240830558684852, 1.998132471356564244, 1.989106007615571325,
  1.980158896898598364, 1.971288697931769640, 1.962493064942461896,
  1.953769742382734043, 1.945116560006753925, 1.936531428273758904,
  1.928012334050718257, 1.919557336591228847, 1.911164563769282232,
  1.902832208548446369, 1.894558525668710081, 1.886341828534776388,
  1.878180486290977669, 1.870072921069236838, 1.862017605397632281,
  1.854013059758148119, 1.846057850283119750, 1.838150586580728607,
  1.830289919680666566, 1.822474540091783224, 1.814703175964167636,
  1.806974591348693426, 1.799287584547580199, 1.791640986550010028,
  1.784033659547276329, 1.776464495522344977, 1.768932414909077933,
  1.761436365316706665, 1.753975320315455111, 1.746548278279492994,
  1.739154261283669012, 1.731792314050707216, 1.724461502945775715,
  1.717160915015540690, 1.709889657069006086, 1.702646854797613907,
  1.695431651932238548, 1.688243209434858727, 1.681080704722823338,
  1.673943330923760353, 1.666830296159286684, 1.659740822855789499,
  1.652674147080648526, 1.645629517902360339, 1.638606196773111146,
  1.631603456932422036, 1.624620582830568427, 1.617656869570534228,
  1.610711622367333673, 1.603784156023583041, 1.596873794420261339,
  1.589979870021648534, 1.583101723393471438, 1.576238702733332886,
  1.569390163412534456, 1.562555467528439657, 1.555733983466554893,
  1.548925085471535512, 1.542128153226347553, 1.535342571438843118,
  1.528567729435024614, 1.521803020758293101, 1.515047842773992404,
  1.508301596278571965, 1.501563685112706548, 1.494833515777718391,
  1.488110497054654369, 1.481394039625375747, 1.474683555695025516,
  1.467978458615230908, 1.461278162507407830, 1.454582081885523293,
  1.447889631277669675, 1.441200224845798017, 1.434513276002946425,
  1.427828197027290358, 1.421144398672323117, 1.414461289772464658,
  1.407778276843371534, 1.401094763676202559, 1.394410150925071257,
  1.387723835686884621, 1.381035211072741964, 1.374343665770030531,
  1.367648583594317957, 1.360949343030101844, 1.354245316759430606,
  1.347535871177359290, 1.340820365893152122, 1.334098153216083604,
  1.327368577624624679, 1.320630975217730096, 1.313884673146868964,
  1.307128989027353860, 1.300363230327433728, 1.293586693733517645,
  1.286798664489786415, 1.279998415710333237, 1.273185207661843732,
  1.266358287014688333, 1.259516886060144225, 1.252660221891297887,
  1.245787495544997903, 1.238897891102027415, 1.231990574742445110,
  1.225064693752808020, 1.218119375481726552, 1.211153726239911244,
  1.204166830140560140, 1.197157747875585931, 1.190125515422801650,
  1.183069142678760732, 1.175987612011489825, 1.168879876726833800,
  1.161744859441574240, 1.154581450355851802, 1.147388505416733873,
  1.140164844363995789, 1.132909248648336975, 1.125620459211294389,
  1.118297174115062909, 1.110938046009249502, 1.103541679420268151,
  1.096106627847603487, 1.088631390649514197, 1.081114409698889389,
  1.073554065787871714, 1.065948674757506653, 1.058296483326006454,
  1.050595664586207123, 1.042844313139370538, 1.035040439828605274,
  1.027181966030751292, 1.019266717460529215, 1.011292417434978441,
  1.003256679539591412, 0.995156999629943084, 0.986990747093846266,
  0.978755155288937750, 0.970447311058864615, 0.962064143217605250,
  0.953602409875572654, 0.945058684462571130, 0.936429340280896860,
  0.927710533396234771, 0.918898183643734989, 0.909987953490768997,
  0.900975224455174528, 0.891855070726792376, 0.882622229578910122,
  0.873271068082494550, 0.863795545546826915, 0.854189171001560554,
  0.844444954902423661, 0.834555354079518752, 0.824512208745288633,
  0.814306670128064347, 0.803929116982664893, 0.793369058833152785,
  0.782615023299588763, 0.771654424216739354, 0.760473406422083165,
  0.749056662009581653, 0.737387211425838629, 0.725446140901303549,
  0.713212285182022732, 0.700661841097584448, 0.687767892786257717,
  0.674499822827436479, 0.660822574234205984, 0.646695714884388928,
  0.632072236375024632, 0.616896989996235545, 0.601104617743940417,
  0.584616766093722262, 0.567338257040473026, 0.549151702313026790,
  0.529909720646495108, 0.509423329585933393, 0.487443966121754335,
  0.463634336771763245, 0.437518402186662658, 0.408389134588000746,
  0.375121332850465727, 0.335737519180459465, 0.286174591747260509,
  0.215241895913273806, 0.000000000000000000]

/-- The right edge of layer `i`. -/
def edge (i : Nat) : Float := edges.getD i 0.0

/-- The height `exp (-x² / 2)` of the curve over `x`. -/
def curve (x : Float) : Float := Float.exp (-x * x / 2.0)

/-- Where the tail begins: the right edge of the second layer. -/
def tailStart : Float := 3.654152885361008796

/-- The distance of a tail point from `tailStart`, after at most `attempts`
attempts. -/
def tail : (attempts : Nat) → Generator → Float × Generator
  | 0, g => (0.0, g)
  | attempts + 1, g =>
    let (a, g) := g.openUnit
    let (c, g) := g.openUnit
    let x := Float.log a / tailStart
    let y := Float.log c
    if -2.0 * y < x * x then tail attempts g else (x, g)

/-- A standard normal number by rejection from the layers, after at most
`attempts` attempts. -/
def normalWithin : (attempts : Nat) → Generator → Float × Generator
  | 0, g => (0.0, g)
  | attempts + 1, g =>
    let (word, g) := g.next
    let layer := (word &&& 0xFF).toNat
    let u := (word >>> 12).toFloat / 2251799813685248.0 - 1.0
    let x := u * edge layer
    if Float.abs x < edge (layer + 1) then (x, g)
    else if layer = 0 then
      let (far, g) := tail attempts g
      (if u < 0.0 then far - tailStart else tailStart - far, g)
    else
      let (share, g) := g.fineUnit
      let low := curve (edge (layer + 1))
      let high := curve (edge layer)
      if low + (high - low) * share < curve x then (x, g) else normalWithin attempts g

/-- A standard normal number. An attempt succeeds with probability above 0.98,
so that the bound on attempts is never felt. -/
def normal (g : Generator) : Float × Generator := normalWithin 1000 g

/-- The factor that takes a number below one to a number below `total`: the
total itself, or the next smaller numbers as long as the largest number below
one would still reach the total. -/
def scaleBelow (total : Float) : (limit : Nat) → Float → Float
  | 0, scale => scale
  | limit + 1, scale =>
    if total ≤ scale * (1.0 - 2.220446049250313e-16) then
      scaleBelow total limit (Float.ofBits (scale.toBits - 1))
    else scale

instance : RandomSource Generator Float where
  seeded := Generator.ofSeed
  unit := Generator.unit
  below total g :=
    let (u, g) := g.unit
    (u * scaleBelow total 8 total, g)
  normal := normal

end ReachMixture.Random
