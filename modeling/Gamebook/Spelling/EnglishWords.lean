/-!
# English words

The words of the built-in dictionaries, the most frequent first, and the British spellings of some
of them.
-/

namespace Gamebook

/-- Words in American spelling, by falling frequency. -/
def americanWords : String :=
  "the of and to a in is it you that he was for on are with as i his they be at one have this from or
had by not word but what some we can out other were all there when up use your how said an each
she which do their time if will way about many then them write would like so these her long make
thing see him two has look more day could go come did number sound no most people my over know
water than call first who may down side been now find any new work part take get place made live
where after back little only round man year came show every good me give our under name very
through just form sentence great think say help low line differ turn cause much mean before move
right boy old too same tell does set three want air well also play small end put home read hand
port large spell add even land here must big high such follow act why ask men change went light
kind off need house picture try us again animal point mother world near build self earth father
head stand own page should country found answer school grow study still learn plant cover food sun
four between state keep eye never last let thought city tree cross farm hard start might story saw
far sea draw left late run don't while press close night real life few north open seem together
next white children begin got walk example ease paper group always music those both mark often
letter until mile river car feet care second book carry took science eat room friend began idea
fish mountain stop once base hear horse cut sure watch color face wood main enough plain girl
usual young ready above ever red list though feel talk bird soon body dog family direct pose leave
song measure door product black short numeral class wind question happen complete ship area half
rock order fire south problem piece told knew pass since top whole king space heard best hour
better true during hundred five remember step early hold west ground interest reach fast verb sing
listen six table travel less morning ten simple several vowel toward war lay against pattern slow
center love person money serve appear road map rain rule govern pull cold notice voice unit power
town fine certain fly fall lead cry dark machine note wait plan figure star box noun field rest
correct able pound done beauty drive stood contain front teach week final gave green oh quick
develop ocean warm free minute strong special mind behind clear tail produce fact street inch
multiply nothing course stay wheel full force blue object decide surface deep moon island foot
system busy test record boat common gold possible plane stead dry wonder laugh thousand ago ran
check game shape equate hot miss brought heat snow tire bring yes distant fill east paint language
among grand ball yet wave drop heart am present heavy dance engine position arm wide sail material
size vary settle speak weight general ice matter circle pair include divide syllable felt perhaps
pick sudden count square reason length represent art subject region energy hunt probable bed
brother egg ride cell believe fraction forest sit race window store summer train sleep prove lone
leg exercise wall catch mount wish sky board joy winter sat written wild instrument kept glass
grass cow job edge sign visit past soft fun bright gas weather month million bear finish happy
hope flower clothe strange gone jump baby eight village meet root buy raise solve metal whether
push seven paragraph third shall held hair describe cook floor either result burn hill safe cat
century consider type law bit coast copy phrase silent tall sand soil roll temperature finger
industry value fight lie beat excite natural view sense ear else quite broke case middle kill son
lake moment scale loud spring observe child straight consonant nation dictionary milk speed method
organ pay age section dress cloud surprise quiet stone tiny climb cool design poor lot experiment
bottom key iron single stick flat twenty skin smile crease hole trade melody trip office receive
row mouth exact symbol die least trouble shout except wrote seed tone join suggest clean break
lady yard rise bad blow oil blood touch grew cent mix team wire cost lost brown wear garden equal
sent choose fell fit flow fair bank collect save control decimal gentle woman captain practice
separate difficult doctor please protect noon whose locate ring character insect caught period
indicate radio spoke atom human history effect electric expect crop modern element hit student
corner party supply bone rail imagine provide agree thus capital won't chair danger fruit rich
thick soldier process operate guess necessary sharp wing create neighbor wash bat rather crowd
corn compare poem string bell depend meat rub tube famous dollar stream fear sight thin triangle
planet hurry chief colony clock mine tie enter major fresh search send yellow gun allow print dead
spot desert suit current lift rose continue block chart hat sell success company subtract event
particular deal swim term opposite wife shoe shoulder spread arrange camp invent cotton born
determine quart nine truck noise level chance gather shop stretch throw shine property column
molecule select wrong gray repeat require broad prepare salt nose plural anger claim continent
oxygen sugar death pretty skill women season solution magnet silver thank branch match suffix
especially fig afraid huge sister steel discuss forward similar guide experience score apple
bought led pitch coat mass card band rope slip win dream evening condition feed tool total basic
smell valley nor double seat arrive master track parent shore division sheet substance favor
connect post spend chord fat glad original share station dad bread charge proper bar offer segment
slave duck instant market degree populate chick dear enemy reply drink occur support speech nature
range steam motion path liquid log meant quotient teeth shell neck i'm you're it's can't didn't
doesn't isn't wasn't aren't weren't haven't hasn't hadn't wouldn't couldn't shouldn't let's that's
there's what's who's he's she's we're they're i've you've we've they've i'll you'll he'll she'll
we'll they'll i'd you'd he'd she'd we'd they'd dragon knight sword shield castle queen prince
princess magic wizard witch potion quest journey adventure battle ally stranger guard gate tower
dungeon cave tavern inn merchant coin coins armor weapon bow arrow dagger axe blade helmet cloak
boots amulet treasure chest lock trap monster beast wolf troll goblin orc elf dwarf giant demon
ghost spirit shadow darkness flame smoke ash wound heal health strength courage honor pride shame
rage calm peace army commander lord duke duchess baron servant teacher scholar priest temple
church altar god goddess prayer faith curse blessing fate destiny nightmare memory future dawn
dusk midnight sunrise sunset storm thunder lightning harbor beach bridge trail cliff canyon barn
cart wagon carriage saddle stable looms loom grunt grunts nod nods notices politely polite knock
knocks walks away gently whisper whispers shouts scream screams laughs smiles frown frowns sigh
sighs glance stare gaze blink wink shrug grin grins weep cries sob tremble shiver shake nervous
anxious worried scared terrified brave bold fierce proud humble cruel rough smooth dull dim noisy
empty suddenly quickly slowly carefully quietly softly finally really actually simply probably
maybe certainly surely clearly nearly almost already sometimes usually rarely seldom anyway
instead however therefore although because unless neither nobody somebody anybody everybody
someone anyone everyone something anything everything nowhere somewhere anywhere everywhere
himself herself itself myself yourself ourselves themselves yourselves choice chose chosen option
decision ending beginning chapter scene player stat stats statistic statistics points achievement
achievements lose won victory defeat died alive living killed murder escape flee hide hidden seek
sought return returned entered arrived waited watched listened spoken asked answered replied known
seemed looked seen touched opened closed pushed pulled threw thrown grab grabbed dropped carried
taken given sold paid steal stole stolen fought strike struck hurt broken climbed jumped fallen
risen wake woke slept ate eaten drank drunk okay ok yeah hello goodbye thanks sorry welcome sir
madam into its being doing having gets getting gotten makes making goes going comes coming knows
knowing takes taking sees seeing looks looking wants wanted wanting uses used using finds finding
gives giving tells telling works worked working calls called calling tries tried trying asks
asking needs needed needing feels feeling become becomes became becoming leaves leaving puts
putting means meaning keeps keeping lets letting begins begun seems seeming helps helped helping
shows showed shown showing hears hearing plays played playing runs running moves moved moving
lives lived believes believed brings happens happened writes sits sitting stands standing loses
losing pays paying meets met meeting includes included continues continued sets setting learns
learned learnt changes changed leads leading understand understands understood watches follows
followed stops stopped creates created speaks reading reads allows allowed adds added spends spent
grows grown opens walked walking wins winning offers offered remembers remembered loves loved
loving considers considered appears appeared buys waits serves served dies dying sends expects
expected builds built stays stayed falls cuts reaches reached kills remain remains remained
suggests raises passes passed sells requires required report reports decides decided pulls worse
worst newer older oldest greater greatest higher highest smaller smallest larger largest bigger
biggest longer longest different earlier later fewer important younger public easy easier harder
stronger weak weaker likely local social political national purple orange pink golden happier sad
angry tired hungry thirsty sick ill healthy beautiful ugly handsome lovely odd curious familiar
ancient enormous vast narrow shallow wet dirty dangerous deadly tame secret lonely alone awake
asleep aware careful careless today tomorrow yesterday tonight below inside outside around across
along beside beyond towards upon within without daughter husband eyes ears lip lips tooth tongue
shoulders arms hands fingers stomach legs knee knees bones breath soul words things ceiling
kitchen roof stairs hall corridor price business government wine beer ale tea coffee cup plate
bowl bottle pen ink none lots plenty onward onwards upward downward afterwards meanwhile otherwise
indeed besides moreover nevertheless"

/-- American spellings and the British ones that replace them. -/
def britishVariants : List (String × String) :=
  [ ("color", "colour"),
    ("favor", "favour"),
    ("honor", "honour"),
    ("harbor", "harbour"),
    ("armor", "armour"),
    ("neighbor", "neighbour"),
    ("center", "centre"),
    ("gray", "grey"),
    ("theater", "theatre"),
    ("meter", "metre"),
    ("defense", "defence"),
    ("offense", "offence"),
    ("traveled", "travelled"),
    ("traveling", "travelling"),
    ("jewelry", "jewellery"),
    ("plow", "plough"),
    ("mold", "mould"),
    ("gotten", "got") ]

end Gamebook
