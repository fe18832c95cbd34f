import Mathlib

/-! The firing table `conf/shooter_data.xlsx`, from which the build generates
`shooter_data`: one row an inch of range, 72 to 240. Only the columns that set
the wheel speed are kept, in units of 10⁻¹⁷. -/
namespace Steamworks.Shooter

structure ShooterRow where
  speed : ℕ
  inDelta : ℕ

def shooterData : List ShooterRow := [
  ⟨43515407171109990000, 64044996094373796⟩,
  ⟨43584452167204364000, 69044996094373801⟩,
  ⟨43656539997870090000, 72087830665725505⟩,
  ⟨43731518653873621000, 74978656003531796⟩,
  ⟨43809240112857037000, 77721458983415914⟩,
  ⟨43889560294455816000, 80320181598779072⟩,
  ⟨43972339015416435000, 82778720960618557⟩,
  ⟨44057439944714213000, 85100929297777839⟩,
  ⟨44144730558671017000, 87290613956804464⟩,
  ⟨44234082096073018000, 89351537402001213⟩,
  ⟨44325369513288308000, 91287417215289679⟩,
  ⟨44418471439384803000, 93101926096494481⟩,
  ⟨44513270131247839000, 94798691863036311⟩,
  ⟨44609651428697987000, 96381297450147940⟩,
  ⟨44707504709608747000, 97853280910760532⟩,
  ⟨44806722845024296000, 99218135415549114⟩,
  ⟨44907202154277161000, 100479309252864370⟩,
  ⟨45008842360106075000, 101640205828914530⟩,
  ⟨45111546543773568000, 102704183667492540⟩,
  ⟨45215221100183851000, 103674556410283000⟩,
  ⟨45319775693000406000, 104554592816555210⟩,
  ⟨45425123209763797000, 105347516763390560⟩,
  ⟨45531179717009354000, 106056507245557440⟩,
  ⟨45637864415385025000, 106684698375670450⟩,
  ⟨45745099594768908000, 107235179383883410⟩,
  ⟨45852810589387138000, 107710994618230420⟩,
  ⟨45960925732931616000, 108115143544478090⟩,
  ⟨46069376313677662000, 108450580746045940⟩,
  ⟨46178096529601771000, 108720215924108740⟩,
  ⟨46287023443499425000, 108926913897653320⟩,
  ⟨46396096938102710000, 109073494603285330⟩,
  ⟨46505259671198087000, 109162733095377010⟩,
  ⟨46614457030744200000, 109197359546112690⟩,
  ⟨46723637089989472000, 109180059245272790⟩,
  ⟨46832750562589979000, 109113472600506610⟩,
  ⟨46941750757727107000, 109000195137127780⟩,
  ⟨47050593535225221000, 108842777498114170⟩,
  ⟨47159237260669568000, 108643725444346730⟩,
  ⟨47267642760523825000, 108405499854256960⟩,
  ⟨47375773277248015000, 108130516724190780⟩,
  ⟨47483594424416015000, 107821147167999240⟩,
  ⟨47591074141833519000, 107479717417504620⟩,
  ⟨47698182650655644000, 107108508822125260⟩,
  ⟨47804892408504668000, 106709757849023390⟩,
  ⟨47911178064587784000, 106285656083116460⟩,
  ⟨48017016414814793000, 105838350227008960⟩,
  ⟨48122386356915968000, 105369942101174270⟩,
  ⟨48227268845559638000, 104882488643670510⟩,
  ⟨48331646847469869000, 104378001910231430⟩,
  ⟨48435505296544511000, 103858449074641610⟩,
  ⟨48538831048972497000, 103325752427986120⟩,
  ⟨48641612838352034000, 102781789379537260⟩,
  ⟨48743841230807902000, 102228392455867830⟩,
  ⟨48845508580109413000, 101667349301510510⟩,
  ⟨48946608982788234000, 101100402678821410⟩,
  ⟨49047138233255851000, 100529250467616290⟩,
  ⟨49147093778921567000, 99955545665716272⟩,
  ⟨49246474675310014000, 99380896388447582⟩,
  ⟨49345281541179202000, 98806865869187277⟩,
  ⟨49443516513637724000, 98234972458521952⟩,
  ⟨49541183203262949000, 97666689625225445⟩,
  ⟨49638286649218776000, 97103445955826828⟩,
  ⟨49734833274372954000, 96546625154178400⟩,
  ⟨49830830840415092000, 95997566042137805⟩,
  ⟨49926288402974546000, 95457562559454345⟩,
  ⟨50021216266737747000, 94927863763200548⟩,
  ⟨50115625940566269000, 94409673828522500⟩,
  ⟨50209530092614477000, 93904152048207834⟩,
  ⟨50302942505447027000, 93412412832549307⟩,
  ⟨50395878031157099000, 92935525710072397⟩,
  ⟨50488352546483520000, 92474515326421169⟩,
  ⟨50580382907929015000, 92030361445495146⟩,
  ⟨50671986906877737000, 91603998948721710⟩,
  ⟨50763183224712770000, 91196317835033369⟩,
  ⟨50853991387934298000, 90808163221527138⟩,
  ⟨50944431723277148000, 90440335342850631⟩,
  ⟨51034525312828259000, 90093589551111108⟩,
  ⟨51124293949144840000, 89768636316580341⟩,
  ⟨51213760090371943000, 89466141227103435⟩,
  ⟨51302946815359996000, 89186724988053356⟩,
  ⟨51391877778782828000, 88930963422831155⟩,
  ⟨51480577166255421000, 88699387472593116⟩,
  ⟨51569069649451080000, 88492483195659588⟩,
  ⟨51657380341220005000, 88310691768924698⟩,
  ⟨51745534750706429000, 88154409486423901⟩,
  ⟨51833558738466513000, 88023987760084310⟩,
  ⟨51921478471586192000, 87919733119679222⟩,
  ⟨52009320378798611000, 87841907212418846⟩,
  ⟨52097111105602357000, 87790726803746111⟩,
  ⟨52184877469378648000, 87766363776290746⟩,
  ⟨52272646414509336000, 87768945130687825⟩,
  ⟨52360444967494618000, 87798552985282186⟩,
  ⟨52448300192070860000, 87855224576242108⟩,
  ⟨52536239144328147000, 87938952257286473⟩,
  ⟨52624288827828127000, 88049683499980347⟩,
  ⟨52712476148721657000, 88187320893530341⟩,
  ⟨52800827870866760000, 88351722145102940⟩,
  ⟨52889370570945835000, 88542700079074166⟩,
  ⟨52978130593584160000, 88760022638325609⟩,
  ⟨53067134006467040000, 89003412882880184⟩,
  ⟨53156406555457602000, 89272548990561518⟩,
  ⟨53245973619714846000, 89567064257244056⟩,
  ⟨53335860166810926000, 89886547096079994⟩,
  ⟨53426090707849153000, 90230541038226875⟩,
  ⟨53516689252582069000, 90598544732915798⟩,
  ⟨53607679264528360000, 90990011946291816⟩,
  ⟨53699083616091275000, 91404351562914599⟩,
  ⟨53790924543675942000, 91840927584667043⟩,
  ⟨53883223602807448000, 92299059131505601⟩,
  ⟨53976001623248430000, 92778020440982800⟩,
  ⟨54069278664116405000, 93277040867974392⟩,
  ⟨54163073969002426000, 93795304886020858⟩,
  ⟨54257405921087911000, 94331952085485682⟩,
  ⟨54352291998262876000, 94886077174965067⟩,
  ⟨54447748728243505000, 95456729980628552⟩,
  ⟨54543791643689610000, 96042915446105326⟩,
  ⟨54640435237322959000, 96643593633348246⟩,
  ⟨54737692917044888000, 97257679721928980⟩,
  ⟨54835576961053312000, 97884044008424098⟩,
  ⟨54934098472961409000, 98521511908097636⟩,
  ⟨55033267336914810000, 99168863953400432⟩,
  ⟨55133092172709303000, 99824835794493083⟩,
  ⟨55233580290909117000, 100488118199814380⟩,
  ⟨55334737647963880000, 101157357054762540⟩,
  ⟨55436568801326712000, 101831153362832080⟩,
  ⟨55539076864572348000, 102508063245636550⟩,
  ⟨55642263462514097000, 103186597941748910⟩,
  ⟨55746128686322254000, 103865223808156770⟩,
  ⟨55850671048641357000, 104542362319102720⟩,
  ⟨55955887438708282000, 105216390066925670⟩,
  ⟨56061773077469570000, 105885638761287740⟩,
  ⟨56168321472699722000, 106548395230151980⟩,
  ⟨56275524374118345000, 107202901418622790⟩,
  ⟨56383371728508337000, 107847354389991780⟩,
  ⟨56491851634833142000, 108479906324805600⟩,
  ⟨56600950299355168000, 109098664522025500⟩,
  ⟨56710651990752694000, 109701691397526700⟩,
  ⟨56820938995238453000, 110287004485758190⟩,
  ⟨56931791571676536000, 110852576438082910⟩,
  ⟨57043187906700950000, 111396335024414840⟩,
  ⟨57155104069832396000, 111916163131445500⟩,
  ⟨57267513968597336000, 112409898764940410⟩,
  ⟨57380389303643960000, 112875335046624060⟩,
  ⟨57493699523861460000, 113310220217499590⟩,
  ⟨57607411781497308000, 113712257635847890⟩,
  ⟨57721490887274467000, 114079105777159380⟩,
  ⟨57835899265509761000, 114408378235293640⟩,
  ⟨57950596909231058000, 114697643721297030⟩,
  ⟨58065541335296030000, 114944426064971590⟩,
  ⟨58180687539508335000, 115146204212305750⟩,
  ⟨58295987951736902000, 115300412228566530⟩,
  ⟨58411392391032132000, 115404439295230080⟩,
  ⟨58526848020745001000, 115455629712869270⟩,
  ⟨58642299303644427000, 115451282899425680⟩,
  ⟨58757687957034386000, 115388653389959470⟩,
  ⟨58872952907872104000, 115264950837718060⟩,
  ⟨58988030247886059000, 115077340013954200⟩,
  ⟨59102853188692939000, 114822940806880070⟩,
  ⟨59217352016916539000, 114498828223599960⟩,
  ⟨59331454049303898000, 114102032387359030⟩,
  ⟨59445083587844579000, 113629538540681100⟩,
  ⟨59558161874887674000, 113078287043094860⟩,
  ⟨59670607048259376000, 112445173371702370⟩,
  ⟨59782334096381169000, 111727048121792900⟩,
  ⟨59893254813387261000, 110920717006092670⟩,
  ⟨60003277754242731000, 110022940855469640⟩,
  ⟨60112308189860209000, 109030435617478360⟩,
  ⟨60220248062218593000, 107939872358383580⟩,
  ⟨60326995939480935000, 106747877262341720⟩]

end Steamworks.Shooter
