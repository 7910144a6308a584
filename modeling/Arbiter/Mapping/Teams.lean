import Arbiter.Framework.Text
import Mathlib.Data.String.Basic

/-! # Team Codes

  The codes that stand for teams in tickers and slugs. Several codes of one team are
  collapsed to one; a code that is not known stands for itself.
-/

namespace Teams

/-! ### Tables -/

/-- `TEAM_ALIASES`. -/
def team_aliases : List (String × String) :=
  [("draw", "tie"), ("tie", "tie"), ("atx", "aus"), ("aus", "aus"), ("atl", "atl"),
    ("chi", "chi"), ("clb", "clb"), ("cin", "cin"), ("col", "col"), ("dal", "dal"), ("dc", "dc"),
    ("hou", "hou"), ("lafc", "lafc"), ("lag", "lag"), ("mia", "mia"), ("mim", "mim"),
    ("min", "min"), ("mtl", "mtl"), ("nyc", "nyc"), ("nyrb", "nyrb"), ("orl", "orl"),
    ("phi", "phi"), ("por", "por"), ("rsl", "rsl"), ("sea", "sea"), ("sj", "sj"), ("skc", "skc"),
    ("stl", "stl"), ("tor", "tor"), ("van", "van"), ("ari", "ari"), ("az", "ari"),
    ("bal", "bal"), ("bos", "bos"), ("chc", "chc"), ("cws", "cws"), ("cle", "cle"),
    ("det", "det"), ("kc", "kc"), ("laa", "laa"), ("lad", "lad"), ("mil", "mil"), ("nym", "nym"),
    ("nyy", "nyy"), ("oak", "oak"), ("pit", "pit"), ("sd", "sd"), ("sdp", "sd"), ("sf", "sf"),
    ("tb", "tb"), ("tex", "tex"), ("wsh", "wsh"), ("ana", "ana"), ("buf", "buf"), ("car", "car"),
    ("cbj", "cbj"), ("cgy", "cgy"), ("edm", "edm"), ("fla", "fla"), ("lak", "lak"), ("nj", "nj"),
    ("nsh", "nsh"), ("nyi", "nyi"), ("nyr", "nyr"), ("ott", "ott"), ("tbl", "tb"),
    ("uta", "uta"), ("vgk", "vgk"), ("wpg", "wpg"), ("bkn", "bkn"), ("cha", "cha"),
    ("den", "den"), ("gs", "gsw"), ("gsw", "gsw"), ("ind", "ind"), ("lac", "lac"),
    ("lal", "lal"), ("mem", "mem"), ("nop", "nop"), ("ny", "nyk"), ("nyk", "nyk"),
    ("okc", "okc"), ("phx", "phx"), ("sac", "sac"), ("sas", "sas"), ("gb", "gb"), ("jac", "jac"),
    ("jax", "jac"), ("lv", "lv"), ("lar", "lar"), ("ne", "ne"), ("no", "no"), ("nyg", "nyg"),
    ("nyj", "nyj"), ("ten", "ten"), ("ars", "ars"), ("ast", "ast"), ("ata", "ata"),
    ("bar", "fcb"), ("bfc", "bol"), ("bmg", "bmg"), ("bol", "bol"), ("bor", "bor"),
    ("bre", "bre"), ("bvb", "bvb"), ("cag", "cag"), ("cfc", "cfc"), ("cry", "cry"),
    ("fcb", "fcb"), ("fio", "fio"), ("ful", "ful"), ("gen", "gen"), ("lev", "lev"),
    ("not", "not"), ("osa", "osa"), ("rbl", "rbl"), ("rom", "rom"), ("tot", "tot"),
    ("whu", "whu")]

/-- `_SLUG_TO_CODE`: the teams of championship markets. -/
def slug_to_code : List (String × String) :=
  [("arizona-cardinals", "ari"), ("atlanta-falcons", "atl"), ("baltimore-ravens", "bal"),
    ("buffalo-bills", "buf"), ("carolina-panthers", "car"), ("chicago-bears", "chi"),
    ("cincinnati-bengals", "cin"), ("cleveland-browns", "cle"), ("dallas-cowboys", "dal"),
    ("denver-broncos", "den"), ("detroit-lions", "det"), ("green-bay-packers", "gb"),
    ("houston-texans", "hou"), ("indianapolis-colts", "ind"), ("jacksonville-jaguars", "jac"),
    ("kansas-city-chiefs", "kc"), ("las-vegas-raiders", "lv"), ("los-angeles-chargers", "lac"),
    ("los-angeles-rams", "lar"), ("miami-dolphins", "mia"), ("minnesota-vikings", "min"),
    ("new-england-patriots", "ne"), ("new-orleans-saints", "no"), ("new-york-giants", "nyg"),
    ("new-york-jets", "nyj"), ("philadelphia-eagles", "phi"), ("pittsburgh-steelers", "pit"),
    ("san-francisco-49ers", "sf"), ("seattle-seahawks", "sea"), ("tampa-bay-buccaneers", "tb"),
    ("tennessee-titans", "ten"), ("washington-commanders", "wsh"), ("atlanta-hawks", "atl"),
    ("boston-celtics", "bos"), ("brooklyn-nets", "bkn"), ("charlotte-hornets", "cha"),
    ("chicago-bulls", "chi"), ("cleveland-cavaliers", "cle"), ("dallas-mavericks", "dal"),
    ("denver-nuggets", "den"), ("detroit-pistons", "det"), ("golden-state-warriors", "gsw"),
    ("houston-rockets", "hou"), ("indiana-pacers", "ind"), ("los-angeles-clippers", "lac"),
    ("los-angeles-lakers", "lal"), ("memphis-grizzlies", "mem"), ("miami-heat", "mia"),
    ("milwaukee-bucks", "mil"), ("minnesota-timberwolves", "min"),
    ("new-orleans-pelicans", "nop"), ("new-york-knicks", "nyk"),
    ("oklahoma-city-thunder", "okc"), ("orlando-magic", "orl"), ("philadelphia-76ers", "phi"),
    ("phoenix-suns", "phx"), ("portland-trail-blazers", "por"), ("sacramento-kings", "sac"),
    ("san-antonio-spurs", "sas"), ("toronto-raptors", "tor"), ("utah-jazz", "uta"),
    ("washington-wizards", "wsh"), ("arizona-diamondbacks", "ari"), ("atlanta-braves", "atl"),
    ("baltimore-orioles", "bal"), ("boston-red-sox", "bos"), ("chicago-cubs", "chc"),
    ("chicago-white-sox", "cws"), ("cincinnati-reds", "cin"), ("cleveland-guardians", "cle"),
    ("colorado-rockies", "col"), ("detroit-tigers", "det"), ("houston-astros", "hou"),
    ("kansas-city-royals", "kc"), ("los-angeles-angels", "laa"), ("los-angeles-dodgers", "lad"),
    ("miami-marlins", "mia"), ("milwaukee-brewers", "mil"), ("minnesota-twins", "min"),
    ("new-york-mets", "nym"), ("new-york-yankees", "nyy"), ("oakland-athletics", "oak"),
    ("philadelphia-phillies", "phi"), ("pittsburgh-pirates", "pit"), ("san-diego-padres", "sd"),
    ("san-francisco-giants", "sf"), ("seattle-mariners", "sea"), ("st-louis-cardinals", "stl"),
    ("tampa-bay-rays", "tb"), ("texas-rangers", "tex"), ("toronto-blue-jays", "tor"),
    ("washington-nationals", "wsh"), ("anaheim-ducks", "ana"), ("boston-bruins", "bos"),
    ("buffalo-sabres", "buf"), ("calgary-flames", "cgy"), ("carolina-hurricanes", "car"),
    ("chicago-blackhawks", "chi"), ("colorado-avalanche", "col"),
    ("columbus-blue-jackets", "cbj"), ("dallas-stars", "dal"), ("detroit-red-wings", "det"),
    ("edmonton-oilers", "edm"), ("florida-panthers", "fla"), ("los-angeles-kings", "lak"),
    ("minnesota-wild", "min"), ("montreal-canadiens", "mtl"), ("nashville-predators", "nsh"),
    ("new-jersey-devils", "nj"), ("new-york-islanders", "nyi"), ("new-york-rangers", "nyr"),
    ("ottawa-senators", "ott"), ("philadelphia-flyers", "phi"), ("pittsburgh-penguins", "pit"),
    ("san-jose-sharks", "sj"), ("seattle-kraken", "sea"), ("st-louis-blues", "stl"),
    ("tampa-bay-lightning", "tb"), ("toronto-maple-leafs", "tor"), ("utah-hockey-club", "uta"),
    ("vegas-golden-knights", "vgk"), ("vancouver-canucks", "van"),
    ("washington-capitals", "wsh"), ("winnipeg-jets", "wpg"), ("atlanta-united", "atl"),
    ("austin-fc", "aus"), ("charlotte-fc", "cha"), ("chicago-fire", "chi"),
    ("fc-cincinnati", "cin"), ("colorado-rapids", "col"), ("columbus-crew", "clb"),
    ("fc-dallas", "dal"), ("dc-united", "dc"), ("houston-dynamo", "hou"), ("inter-miami", "mia"),
    ("la-galaxy", "lag"), ("lafc", "lafc"), ("minnesota-united", "min"), ("cf-montreal", "mtl"),
    ("nashville-sc", "nsh"), ("new-england-revolution", "ne"), ("new-york-city-fc", "nyc"),
    ("new-york-red-bulls", "nyrb"), ("orlando-city", "orl"), ("philadelphia-union", "phi"),
    ("portland-timbers", "por"), ("real-salt-lake", "rsl"), ("san-jose-earthquakes", "sj"),
    ("seattle-sounders", "sea"), ("sporting-kansas-city", "skc"), ("st-louis-city", "stl"),
    ("toronto-fc", "tor"), ("vancouver-whitecaps", "van"), ("ohio-state", "ohst"),
    ("ohio-state-buckeyes", "ohst"), ("georgia", "uga"), ("georgia-bulldogs", "uga"),
    ("alabama", "ala"), ("alabama-crimson-tide", "ala"), ("michigan", "mich"),
    ("michigan-wolverines", "mich"), ("texas", "tex"), ("texas-longhorns", "tex"),
    ("oregon", "ore"), ("oregon-ducks", "ore"), ("penn-state", "psu"),
    ("penn-state-nittany-lions", "psu"), ("clemson", "clem"), ("clemson-tigers", "clem"),
    ("notre-dame", "nd"), ("notre-dame-fighting-irish", "nd"), ("lsu", "lsu"),
    ("lsu-tigers", "lsu"), ("usc", "usc"), ("usc-trojans", "usc"), ("tennessee", "tenn"),
    ("tennessee-volunteers", "tenn"), ("florida-state", "fsu"),
    ("florida-state-seminoles", "fsu"), ("oklahoma", "okla"), ("oklahoma-sooners", "okla"),
    ("miami-hurricanes", "canes"), ("colorado-buffaloes", "cubuf")]

/-! ### Codes -/

/-- `normalize_entity_code`. -/
def normalize_entity_code (value : String) : String :=
  let code := (Text.strip value).toLower
  (team_aliases.lookup code).getD code

/-- The code is one of the table. -/
def known_code (code : String) : Bool := (team_aliases.lookup code).isSome

/-- The order of the splits: the shorter codes, then the text. -/
def split_before (a b : String × String) : Bool :=
  let length (p : String × String) : ℕ := p.1.length + p.2.length
  length a < length b ||
    (length a = length b && (a.1 < b.1 || (a.1 = b.1 && a.2 < b.2)))

/-- The first in that order. -/
def first_split : List (String × String) → Option (String × String) :=
  List.foldl (fun best p =>
    match best with
    | none => some p
    | some q => some (if split_before p q then p else q)) none

/-- `split_compound_code`: two codes that are written as one. -/
def split_compound_code (value : String) : Option (String × String) :=
  let text := (Text.strip value).toLower.toList
  if text.length < 4 then none
  else
    first_split ((List.range' 2 (text.length - 3)).filterMap fun idx =>
      let left_raw := String.ofList (text.take idx)
      let right_raw := String.ofList (text.drop idx)
      if known_code left_raw && known_code right_raw then
        some (normalize_entity_code left_raw, normalize_entity_code right_raw)
      else none)

/-- `canonical_pair`. -/
def canonical_pair (a b : String) : String :=
  let left := normalize_entity_code a
  let right := normalize_entity_code b
  if right < left then right ++ "-" ++ left else left ++ "-" ++ right

/-- `resolve_slug_to_code`. -/
def resolve_slug_to_code (slug : String) : Option String :=
  let slug := (Text.strip slug).toLower
  if slug = "" then none else (slug_to_code.lookup slug).or (team_aliases.lookup slug)

end Teams
