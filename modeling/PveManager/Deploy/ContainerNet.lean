import PveManager.Deploy.Bridge
import PveManager.Deploy.Cleanup
import PveManager.Ipam.Offers

/-!
# The card of a container

The worker concatenates the card of a container, the panel reads it option by option. What is read
is what was asked exactly where the texts of the request have no separators of their own.
-/

namespace PveManager.Deploy

open PveManager.Core PveManager.Api PveManager.Net PveManager.Ipam

/-! ### What is asked and what is read -/

/-- The address of a card. -/
inductive CardAddress
  | dhcp
  | static (ip mask : String)
  deriving DecidableEq

/-- An address as the panel reads it: the text before the first slash and the text behind it. -/
def CardAddress.read (text : String) : CardAddress :=
  if text = "dhcp" then .dhcp
  else .static (String.ofList (text.toList.takeWhile (· ≠ '/')))
    (String.ofList ((text.toList.dropWhile (· ≠ '/')).drop 1))

/-- What is asked of the card of a container. -/
structure AskedNet where
  name : String
  bridge : String
  /-- Nothing where the address was left to IPAM and IPAM has none. -/
  address : Option CardAddress
  gateway : Option String
  firewall : Bool

/-- The options of such a card. -/
def AskedNet.names (asked : AskedNet) : List String :=
  ["name", "bridge", "ip"] ++ (if asked.gateway.isSome then ["gw"] else []) ++ ["firewall"]

section Asked

variable (req : LXCDeployRequest) (sur : Surroundings) (a : Option IPAMAllocation)

/-- The IPAM network of a request. -/
def askedNetwork : Option IPAMNetwork :=
  (req.ipamNetworkId.filter (· ≠ 0)).bind sur.networks.find?

def askedMask : String := (askedNetwork req sur).elim "24" maskOf

/-- The given address, that of IPAM, or one by DHCP. -/
def askedAddress : Option CardAddress :=
  if truthy req.ipAddress then some (.static (req.ipAddress.getD "") (askedMask req sur))
  else if automatic req.ipamNetworkId req.ipAddress then
    a.map fun a => .static a.ipAddress (askedMask req sur)
  else some .dhcp

/-- The given gateway, or, for an address, the one of the network. -/
def askedGateway : Option String :=
  if truthy req.gateway then req.gateway
  else if askedAddress req sur a = some .dhcp then none
  else ((askedNetwork req sur).bind IPAMNetwork.gateway).filter (· ≠ "")

/-- A container has one card with its firewall on; a request says the rest. -/
def asked : AskedNet where
  name := "eth0"
  bridge := req.bridge
  address := askedAddress req sur a
  gateway := askedGateway req sur a
  firewall := true

/-- An address without the separators of a card and without blanks in front. -/
structure Unslashed (ip : String) : Prop where
  no_comma : ',' ∉ ip.toList
  no_slash : '/' ∉ ip.toList
  stripped : ip.toList.dropWhile isSpace = ip.toList

/-- A text without commas and without blanks around it. -/
structure Unseparated (text : String) : Prop where
  no_comma : ',' ∉ text.toList
  stripped : strip text = text

/-- The texts of a card do not meet its separators, and no part of it is left out. -/
structure PlainNet : Prop where
  bridge_ne : req.bridge ≠ ""
  bridge : Unseparated req.bridge
  ip : ∀ ip, req.ipAddress = some ip → Unslashed ip
  mask : ',' ∉ (askedMask req sur).toList ∧ rstrip (askedMask req sur).toList =
    (askedMask req sur).toList
  gateway : ∀ gateway, askedGateway req sur a = some gateway → Unseparated gateway
  allocated : automatic req.ipamNetworkId req.ipAddress = true → a.isSome = true
  dhcp : askedAddress req sur a = some .dhcp → truthy req.gateway = false

end Asked

section Says

variable {ρ : Type} (asFloat : String → Option ρ)

/-- The text of a card is read as what was asked, with no further options. -/
structure Says (net0 : String) (asked : AskedNet) : Prop where
  name : (parseNetString asFloat "net0" net0).name = some asked.name
  bridge : (parseNetString asFloat "net0" net0).bridge = some asked.bridge
  address : (parseNetString asFloat "net0" net0).ip.map CardAddress.read = asked.address
  gateway : (parseNetString asFloat "net0" net0).gw = asked.gateway
  firewall : (parseNetString asFloat "net0" net0).firewall = asked.firewall
  names : (options net0.toList).map Prod.fst = asked.names

/-! ### Values have no commas -/

/-- The texts of a card that are read have no commas. -/
structure NoCommas (nic : ParsedNic ρ) : Prop where
  bridge : ∀ text, nic.bridge = some text → ',' ∉ text.toList
  ip : ∀ text, nic.ip = some text → ',' ∉ text.toList
  gw : ∀ text, nic.gw = some text → ',' ∉ text.toList

variable {asFloat} {nic : ParsedNic ρ}

theorem notMem_of_orNone {c : Char} {value text : String} (hvalue : c ∉ value.toList)
    (h : orNone value = some text) : c ∉ text.toList := by
  unfold orNone at h
  split at h
  · cases h
  · rwa [← Option.some.inj h]

theorem NoCommas.setOption (h : NoCommas nic) {option : String × String}
    (hoption : ',' ∉ option.2.toList) : NoCommas (Deploy.setOption asFloat nic option) := by
  unfold Deploy.setOption
  split
  · exact ⟨h.bridge, h.ip, h.gw⟩
  · split
    case h_2 => exact ⟨fun _ ht => notMem_of_orNone hoption ht, h.ip, h.gw⟩
    case h_8 => exact ⟨h.bridge, fun _ ht => notMem_of_orNone hoption ht, h.gw⟩
    case h_10 => exact ⟨h.bridge, h.ip, fun _ ht => notMem_of_orNone hoption ht⟩
    all_goals exact ⟨h.bridge, h.ip, h.gw⟩

theorem NoCommas.foldl (h : NoCommas nic) {opts : List (String × String)}
    (hopts : ∀ option ∈ opts, ',' ∉ option.2.toList) :
    NoCommas (opts.foldl (Deploy.setOption asFloat) nic) := by
  induction opts generalizing nic with
  | nil => exact h
  | cons option opts ih =>
    obtain ⟨hoption, hopts⟩ := List.forall_mem_cons.mp hopts
    exact ih (h.setOption hoption) hopts

/-- A value is a part of its token. -/
theorem mem_of_readToken {token : List Char} {option : String × String}
    (h : readToken token = some option) {c : Char} (hc : c ∈ option.2.toList) : c ∈ token := by
  have hstrip : ∀ {chars : List Char}, c ∈ stripChars chars → c ∈ chars := by
    intro chars hmem
    have hmem := (List.dropWhile_suffix _).mem (List.mem_reverse.mp hmem)
    exact (List.dropWhile_suffix _).mem (List.mem_reverse.mp hmem)
  unfold readToken at h
  dsimp only at h
  split at h
  · rw [← Option.some.inj h, String.toList_ofList] at hc
    exact hstrip ((List.dropWhile_suffix _).mem (List.mem_of_mem_drop (hstrip hc)))
  · cases h

theorem noCommas_parse (asFloat : String → Option ρ) (key value : String) :
    NoCommas (parseNetString asFloat key value) := by
  have hempty : NoCommas (emptyNic key value : ParsedNic ρ) :=
    ⟨fun _ h => (by cases h), fun _ h => (by cases h), fun _ h => (by cases h)⟩
  refine hempty.foldl fun option hoption hmem => ?_
  obtain ⟨token, htoken, hread⟩ := List.mem_filterMap.mp hoption
  exact IpAddress.not_mem_of_mem_splitOn htoken (mem_of_readToken hread hmem)

end Says

/-! ### Fields that are joined by commas -/

/-- The text of some fields. -/
def fieldsText (fields : List (String × String)) : List Char :=
  [','].intercalate (fields.map fun f => f.1.toList ++ '=' :: f.2.toList)

/-- A field is read under its name and without the blanks around its value. -/
theorem options_fieldsText {fields : List (String × String)} (hne : fields ≠ [])
    (hnames : ∀ f ∈ fields, ∀ c ∈ f.1.toList,
      (c.isLower || c.isDigit || c == '_' || c == '-') = true)
    (hvalues : ∀ f ∈ fields, ',' ∉ f.2.toList) :
    options (fieldsText fields) = fields.map fun f => (f.1, strip f.2) := by
  have hcomma : ∀ token ∈ fields.map fun f => f.1.toList ++ '=' :: f.2.toList, ',' ∉ token := by
    intro token htoken
    obtain ⟨f, hf, rfl⟩ := List.mem_map.mp htoken
    rw [List.mem_append, List.mem_cons]
    rintro (hmem | hmem | hmem)
    · exact (plain_char (hnames f hf ',' hmem)).2.1 rfl
    · cases hmem
    · exact hvalues f hf hmem
  unfold options fieldsText
  rw [List.splitOn_intercalate ',' hcomma (by simpa using hne), List.filterMap_map,
    ← List.filterMap_eq_map]
  refine List.filterMap_congr fun f hf => ?_
  have hlower : f.1.toList.map Char.toLower = f.1.toList :=
    (List.map_congr_left fun c hc => (plain_char (hnames f hf c hc)).2.2).trans (List.map_id _)
  rw [Function.comp_apply, readToken_option fun c hc => (plain_char (hnames f hf c hc)).1, hlower,
    String.ofList_toList]
  rfl

/-! ### The fields of the card -/

section Fields

variable (bridge : String) (c : NetConfig)

/-- The fields of the address. -/
def ipFields : List (String × String) :=
  if truthy c.ip then
    ("ip", c.ip.getD "" ++ "/" ++ c.mask) ::
      (c.gateway.filter (· ≠ "")).elim [] fun gateway => [("gw", gateway)]
  else [("ip", "dhcp")]

def cardFields : List (String × String) :=
  [("name", "eth0"), ("bridge", bridge)] ++ ipFields c ++ [("firewall", "1")]

theorem net0_eq :
    (s!"name=eth0,bridge={bridge},{c.text},firewall=1").toList =
      fieldsText (cardFields bridge c) := by
  have htext : ∀ text : String, toString text = text := fun _ => rfl
  unfold NetConfig.text cardFields ipFields
  by_cases hip : truthy c.ip = true
  · rw [if_pos hip, if_pos hip]
    dsimp only
    cases hgw : c.gateway with
    | none => simp [truthy, htext, fieldsText, List.intercalate]
    | some gateway =>
      by_cases hne : gateway = ""
      · have hnone : (some gateway).filter (· ≠ "") = none :=
          Option.filter_eq_none_iff.mpr fun _ h => by simpa [← Option.some.inj h] using hne
        rw [hnone]
        simp [hne, truthy, htext, fieldsText, List.intercalate]
      · have hsome : (some gateway).filter (· ≠ "") = some gateway :=
          Option.filter_eq_some_iff.mpr ⟨rfl, decide_eq_true hne⟩
        rw [hsome]
        simp [hne, truthy, htext, fieldsText, List.intercalate]
  · simp [hip, htext, fieldsText, List.intercalate]

theorem plain_names : ∀ f ∈ cardFields bridge c, ∀ ch ∈ f.1.toList,
    (ch.isLower || ch.isDigit || ch == '_' || ch == '-') = true := by
  have hip : ∀ f ∈ ipFields c, f.1 = "ip" ∨ f.1 = "gw" := by
    unfold ipFields
    split
    · cases c.gateway.filter (· ≠ "") with
      | none => simp
      | some gateway => simp
    · simp
  intro f hf
  simp only [cardFields, List.mem_append, List.mem_cons, List.not_mem_nil, or_false] at hf
  rcases hf with ((rfl | rfl) | hf) | rfl
  · simp
  · simp
  · rcases hip f hf with h | h
    · rw [h]
      simp
    · rw [h]
      simp
  · simp

end Fields

section Options

variable {ρ : Type} (asFloat : String → Option ρ) (nic : ParsedNic ρ) (value : String)

@[simp] theorem setOption_bridge_value :
    setOption asFloat nic ("bridge", value) = { nic with bridge := orNone value } := by
  simp [setOption, qemuModels]

@[simp] theorem setOption_name_value :
    setOption asFloat nic ("name", value) = { nic with name := orNone value } := by
  simp [setOption, qemuModels]

@[simp] theorem setOption_ip_value :
    setOption asFloat nic ("ip", value) = { nic with ip := orNone value } := by
  simp [setOption, qemuModels]

@[simp] theorem setOption_gw_value :
    setOption asFloat nic ("gw", value) = { nic with gw := orNone value } := by
  simp [setOption, qemuModels]

@[simp] theorem setOption_firewall_value :
    setOption asFloat nic ("firewall", value) = { nic with firewall := asBool value } := by
  simp [setOption, qemuModels]

end Options

/-! ### Reading the card -/

section Reading

variable {ρ : Type} (asFloat : String → Option ρ) {bridge : String} {c : NetConfig}

/-- The card of a container before it is read. -/
def net0Text (bridge : String) (c : NetConfig) : String :=
  s!"name=eth0,bridge={bridge},{c.text},firewall=1"

theorem options_net0 (hvalues : ∀ f ∈ cardFields bridge c, ',' ∉ f.2.toList) :
    options (net0Text bridge c).toList = (cardFields bridge c).map fun f => (f.1, strip f.2) := by
  unfold net0Text
  rw [net0_eq]
  exact options_fieldsText (by simp [cardFields]) (plain_names bridge c) hvalues

/-- A card with an address, as it is read. -/
theorem parse_static (hip : truthy c.ip = true)
    (hvalues : ∀ f ∈ cardFields bridge c, ',' ∉ f.2.toList) :
    let nic := parseNetString asFloat "net0" (net0Text bridge c)
    nic.name = some "eth0" ∧ nic.bridge = orNone (strip bridge) ∧
      nic.ip = orNone (strip (c.ip.getD "" ++ "/" ++ c.mask)) ∧
      nic.gw = (c.gateway.filter (· ≠ "")).bind (fun gateway => orNone (strip gateway)) ∧
      nic.firewall = true ∧
      (options (net0Text bridge c).toList).map Prod.fst = ["name", "bridge", "ip"] ++
        (if (c.gateway.filter (· ≠ "")).isSome then ["gw"] else []) ++ ["firewall"] := by
  have hname : orNone (strip "eth0") = some "eth0" := by decide
  have hfirewall : asBool (strip "1") = true := by decide
  unfold parseNetString
  rw [options_net0 hvalues]
  unfold cardFields ipFields
  rw [if_pos hip]
  cases c.gateway.filter (· ≠ "") with
  | none => simp [hname, hfirewall, emptyNic]
  | some gateway => simp [hname, hfirewall, emptyNic]

/-- A card without one. -/
theorem parse_dhcp (hip : truthy c.ip = false)
    (hvalues : ∀ f ∈ cardFields bridge c, ',' ∉ f.2.toList) :
    let nic := parseNetString asFloat "net0" (net0Text bridge c)
    nic.name = some "eth0" ∧ nic.bridge = orNone (strip bridge) ∧ nic.ip = some "dhcp" ∧
      nic.gw = none ∧ nic.firewall = true ∧
      (options (net0Text bridge c).toList).map Prod.fst = ["name", "bridge", "ip", "firewall"] := by
  have hname : orNone (strip "eth0") = some "eth0" := by decide
  have hdhcp : orNone (strip "dhcp") = some "dhcp" := by decide
  have hfirewall : asBool (strip "1") = true := by decide
  unfold parseNetString
  rw [options_net0 hvalues]
  unfold cardFields ipFields
  rw [if_neg (by rw [hip]; exact Bool.false_ne_true)]
  simp [hname, hdhcp, hfirewall, emptyNic]

theorem values_static (hip : truthy c.ip = true) (hbridge : ',' ∉ bridge.toList)
    (haddress : ',' ∉ (c.ip.getD "").toList ∧ ',' ∉ c.mask.toList)
    (hgw : ∀ gateway, c.gateway.filter (· ≠ "") = some gateway → ',' ∉ gateway.toList) :
    ∀ f ∈ cardFields bridge c, ',' ∉ f.2.toList := by
  have hslash : ',' ∉ (c.ip.getD "" ++ "/" ++ c.mask).toList := by
    simpa using haddress
  intro f hf
  unfold cardFields ipFields at hf
  rw [if_pos hip] at hf
  cases hgateway : c.gateway.filter (· ≠ "") with
  | none =>
    rw [hgateway] at hf
    simp only [Option.elim_none, List.cons_append, List.nil_append, List.mem_cons,
      List.not_mem_nil, or_false] at hf
    rcases hf with rfl | rfl | rfl | rfl
    · simp
    · exact hbridge
    · exact hslash
    · simp
  | some gateway =>
    rw [hgateway] at hf
    simp only [Option.elim_some, List.cons_append, List.nil_append, List.mem_cons,
      List.not_mem_nil, or_false] at hf
    rcases hf with rfl | rfl | rfl | rfl | rfl
    · simp
    · exact hbridge
    · exact hslash
    · exact hgw gateway hgateway
    · simp

theorem values_dhcp (hip : truthy c.ip = false) (hbridge : ',' ∉ bridge.toList) :
    ∀ f ∈ cardFields bridge c, ',' ∉ f.2.toList := by
  intro f hf
  unfold cardFields ipFields at hf
  rw [if_neg (by rw [hip]; exact Bool.false_ne_true)] at hf
  simp only [List.cons_append, List.nil_append, List.mem_cons, List.not_mem_nil, or_false] at hf
  rcases hf with rfl | rfl | rfl | rfl
  · simp
  · exact hbridge
  · simp
  · simp

/-! ### Values that are read as they were written -/

theorem orNone_strip_iff {text : String} :
    orNone (strip text) = some text ↔ text ≠ "" ∧ strip text = text := by
  unfold orNone
  constructor
  · intro h
    split at h
    · cases h
    case isFalse hne =>
      have hstrip := Option.some.inj h
      exact ⟨hstrip ▸ hne, hstrip⟩
  · rintro ⟨hne, hstrip⟩
    rw [hstrip, if_neg hne]

theorem toList_strip_address (ip mask : String) : (strip (ip ++ "/" ++ mask)).toList =
    ip.toList.dropWhile isSpace ++ '/' :: rstrip mask.toList := by
  have htext : (ip ++ "/" ++ mask).toList = ip.toList ++ '/' :: mask.toList := by simp
  unfold strip
  rw [String.toList_ofList, htext, stripChars_append_cons rfl]

/-- An address is read as it was written if its slash is the first and no blank was removed. -/
theorem read_address_iff {ip mask : String} :
    (orNone (strip (ip ++ "/" ++ mask))).map CardAddress.read = some (.static ip mask) ↔
      '/' ∉ ip.toList ∧ ip.toList.dropWhile isSpace = ip.toList ∧
        rstrip mask.toList = mask.toList := by
  have hlist := toList_strip_address ip mask
  have hmem : '/' ∈ (strip (ip ++ "/" ++ mask)).toList := by
    rw [hlist]
    simp
  have hne : strip (ip ++ "/" ++ mask) ≠ "" := by
    intro h
    rw [h] at hmem
    simp at hmem
  have hdhcp : strip (ip ++ "/" ++ mask) ≠ "dhcp" := by
    intro h
    rw [h] at hmem
    simp at hmem
  unfold orNone
  rw [if_neg hne, Option.map_some, Option.some.injEq]
  unfold CardAddress.read
  rw [if_neg hdhcp, CardAddress.static.injEq, hlist]
  have hparts : '/' ∉ ip.toList.dropWhile isSpace →
      (ip.toList.dropWhile isSpace ++ '/' :: rstrip mask.toList).takeWhile (· ≠ '/') =
        ip.toList.dropWhile isSpace ∧
      ((ip.toList.dropWhile isSpace ++ '/' :: rstrip mask.toList).dropWhile (· ≠ '/')).drop 1 =
        rstrip mask.toList := by
    intro hnone
    have hbefore : ∀ ch ∈ ip.toList.dropWhile isSpace, decide (ch ≠ '/') = true :=
      fun ch hch => decide_eq_true fun h => hnone (h ▸ hch)
    rw [List.takeWhile_append_of_pos hbefore, List.dropWhile_append_of_pos hbefore]
    simp
  constructor
  · rintro ⟨hip, hmask⟩
    have hnone : '/' ∉ ip.toList := by
      rw [← hip, String.toList_ofList]
      intro hmem
      simpa using List.mem_takeWhile_imp hmem
    obtain ⟨htake, hdrop⟩ := hparts fun hmem =>
      hnone ((List.dropWhile_suffix _).mem hmem)
    refine ⟨hnone, ?_, ?_⟩
    · rw [htake] at hip
      rw [← String.toList_ofList (l := ip.toList.dropWhile isSpace), hip]
    · rw [hdrop] at hmask
      rw [← String.toList_ofList (l := rstrip mask.toList), hmask]
  · rintro ⟨hnone, hip, hmask⟩
    obtain ⟨htake, hdrop⟩ := hparts (hip.symm ▸ hnone)
    rw [htake, hdrop, hip, hmask, String.ofList_toList, String.ofList_toList]
    exact ⟨rfl, rfl⟩

/-- The parts of an address that was read have no commas. -/
theorem comma_notMem_of_read {text ip mask : String} (h : ',' ∉ text.toList)
    (hread : CardAddress.read text = .static ip mask) : ',' ∉ ip.toList ∧ ',' ∉ mask.toList := by
  unfold CardAddress.read at hread
  split at hread
  · cases hread
  · injection hread with hip hmask
    rw [← hip, ← hmask, String.toList_ofList, String.toList_ofList]
    refine ⟨fun hmem => h ((List.takeWhile_prefix _).mem hmem), fun hmem => h ?_⟩
    exact (List.dropWhile_suffix _).mem (List.mem_of_mem_drop hmem)

/-- A card with an address says what is asked exactly if its texts are plain. -/
theorem says_static_iff (bridge : String) (hip : truthy c.ip = true) :
    Says asFloat (net0Text bridge c)
        ⟨"eth0", bridge, some (.static (c.ip.getD "") c.mask), c.gateway.filter (· ≠ ""), true⟩ ↔
      bridge ≠ "" ∧ Unseparated bridge ∧ Unslashed (c.ip.getD "") ∧
        (',' ∉ c.mask.toList ∧ rstrip c.mask.toList = c.mask.toList) ∧
        ∀ gateway, c.gateway.filter (· ≠ "") = some gateway → Unseparated gateway := by
  have hplain := noCommas_parse asFloat "net0" (net0Text bridge c)
  constructor
  · intro h
    have hbridge := hplain.bridge bridge h.bridge
    obtain ⟨text, htext, hread⟩ := Option.map_eq_some_iff.mp h.address
    have haddress := comma_notMem_of_read (hplain.ip text htext) hread
    have hgw : ∀ gateway, c.gateway.filter (· ≠ "") = some gateway → ',' ∉ gateway.toList :=
      fun gateway hg => hplain.gw gateway (h.gateway.trans hg)
    obtain ⟨-, hb, hi, hg, -, -⟩ :=
      parse_static asFloat hip (values_static hip hbridge haddress hgw)
    have hb := orNone_strip_iff.mp (hb.symm.trans h.bridge)
    have hstated := h.address
    rw [hi] at hstated
    have hi := read_address_iff.mp hstated
    refine ⟨hb.1, ⟨hbridge, hb.2⟩, ⟨haddress.1, hi.1, hi.2.1⟩, ⟨haddress.2, hi.2.2⟩, ?_⟩
    intro gateway hgateway
    have hg := hg.symm.trans (h.gateway.trans hgateway)
    rw [hgateway, Option.bind_some] at hg
    exact ⟨hgw gateway hgateway, (orNone_strip_iff.mp hg).2⟩
  · rintro ⟨hne, hbridge, hi, hm, hg⟩
    have hvalues := values_static hip hbridge.no_comma ⟨hi.no_comma, hm.1⟩
      fun gateway hgateway => (hg gateway hgateway).no_comma
    obtain ⟨hname, hb, hi', hg', hfirewall, hnames⟩ := parse_static asFloat hip hvalues
    refine ⟨hname, ?_, ?_, hg'.trans ?_, hfirewall, hnames⟩
    · exact hb.trans (orNone_strip_iff.mpr ⟨hne, hbridge.stripped⟩)
    · rw [hi']
      exact read_address_iff.mpr ⟨hi.no_slash, hi.stripped, hm.2⟩
    · cases hgateway : c.gateway.filter (· ≠ "") with
      | none => rfl
      | some gateway =>
        have hne : gateway ≠ "" := of_decide_eq_true (Option.filter_eq_some_iff.mp hgateway).2
        rw [Option.bind_some]
        exact orNone_strip_iff.mpr ⟨hne, (hg gateway hgateway).stripped⟩

/-- A card without an address says what is asked exactly if the bridge is plain and neither an
address nor a gateway is asked. -/
theorem says_dhcp_iff (hip : truthy c.ip = false) {address : Option CardAddress}
    {gateway : Option String} :
    Says asFloat (net0Text bridge c) ⟨"eth0", bridge, address, gateway, true⟩ ↔
      bridge ≠ "" ∧ Unseparated bridge ∧ address = some .dhcp ∧ gateway = none := by
  constructor
  · intro h
    have hbridge := (noCommas_parse asFloat "net0" (net0Text bridge c)).bridge bridge h.bridge
    obtain ⟨-, hb, hi, hg, -, -⟩ := parse_dhcp asFloat hip (values_dhcp hip hbridge)
    have hb := orNone_strip_iff.mp (hb.symm.trans h.bridge)
    refine ⟨hb.1, ⟨hbridge, hb.2⟩, ?_, h.gateway.symm.trans hg⟩
    have haddress := h.address
    rw [hi, Option.map_some] at haddress
    exact haddress.symm
  · rintro ⟨hne, hbridge, rfl, rfl⟩
    obtain ⟨hname, hb, hi, hg, hfirewall, hnames⟩ :=
      parse_dhcp asFloat hip (values_dhcp hip hbridge.no_comma)
    refine ⟨hname, ?_, ?_, hg, hfirewall, hnames⟩
    · exact hb.trans (orNone_strip_iff.mpr ⟨hne, hbridge.stripped⟩)
    · rw [hi]
      rfl

end Reading

/-! ### Addresses of IPAM -/

/-- The text of an address has nothing that a card is divided by. -/
theorem plain_text {address : IpAddress} (h : address.plain = true) :
    ∀ c ∈ address.text.toList, (c ≠ ',' ∧ c ≠ '/') ∧ isSpace c = false := by
  have hword : ∀ {c : Char}, c.isAlphanum = true → (c ≠ ',' ∧ c ≠ '/') ∧ isSpace c = false := by
    intro c hc
    refine ⟨⟨?_, ?_⟩, isSpace_of_word (by rw [hc, Bool.true_or])⟩
    · rintro rfl
      cases hc
    · rintro rfl
      cases hc
  have hhex : ∀ {c : Char}, IpAddress.isHexDigit c = true → c.isAlphanum = true := by
    intro c hc
    rcases (Bool.or_eq_true _ _).mp hc with hc | hc
    · rw [Char.isAlphanum, hc, Bool.or_true]
    · have hmem := of_decide_eq_true hc
      simp only [String.reduceToList, List.mem_cons, List.not_mem_nil, or_false] at hmem
      rcases hmem with rfl | rfl | rfl | rfl | rfl | rfl | rfl | rfl | rfl | rfl | rfl | rfl
      all_goals rfl
  intro c hc
  cases address with
  | v4 n =>
    unfold IpAddress.text at hc
    rw [String.toList_intercalate] at hc
    rcases IpAddress.mem_intercalate hc with hc | ⟨l, hl, hc⟩
    · rw [List.mem_singleton.mp hc]
      decide
    · obtain ⟨text, htext, rfl⟩ := List.mem_map.mp hl
      obtain ⟨d, -, rfl⟩ := List.mem_map.mp htext
      rw [Nat.toString_eq_repr, Nat.toList_repr] at hc
      have hdigit := Nat.isDigit_of_mem_toDigits (by decide) (by decide) hc
      exact hword (by rw [Char.isAlphanum, hdigit, Bool.or_true])
  | v6 n scope =>
    obtain rfl : scope = none := Option.isNone_iff_eq_none.mp h
    have htext : (IpAddress.v6 n none).text.toList =
        (IpAddress.compress (IpAddress.digitsOf 65536 n 8)).toList := by simp [IpAddress.text]
    rw [htext] at hc
    rcases IpAddress.mem_compress hc with rfl | hc
    · decide
    · exact hword (hhex hc)

/-- An address that IPAM chooses by itself is written without a scope. -/
theorem exists_text_of_next {sur : Surroundings} {ipam : Ipam} {networkId : Nat}
    {poolId : Option Nat} {ip : String}
    (h : getNextAvailableIp sur ipam networkId poolId false = some ip) :
    ∃ address : IpAddress, address.plain = true ∧ ip = address.text := by
  unfold getNextAvailableIp at h
  split at h
  · cases h
  · dsimp only at h
    rw [if_neg (by simp)] at h
    obtain ⟨pool, -, hpool⟩ := List.exists_of_findSome?_eq_some h
    rw [freeInPool_eq] at hpool
    obtain ⟨address, hfirst, rfl⟩ := Option.map_eq_some_iff.mp hpool
    unfold firstInPool at hfirst
    split at hfirst
    · obtain ⟨n, -, -, hn, -⟩ := firstFrom_eq_some_iff.mp hfirst
      exact ⟨address, (offered_eq_some hn).1, rfl⟩
    · cases hfirst

theorem ipAddress_of_allocateIp {sur : Surroundings} {ipam : Ipam} {req : AllocationRequest}
    {a : IPAMAllocation} (h : (allocateIp sur ipam req).2 = .done a) :
    a.ipAddress = req.ipAddress := by
  rcases allocateIp_cases sur ipam req with ⟨network, poolId, -, -, -, -, he⟩ | ⟨e, he⟩ | ⟨e, he⟩
  · rw [he] at h
    cases h
    rfl
  · rw [he] at h
    cases h
  · rw [he] at h
    cases h

/-- So is the address of an automatic reservation. -/
theorem exists_text_of_reserve {r : Reservation} {sur : Surroundings} {ipam : Ipam}
    {a : IPAMAllocation} (hip : truthy r.ipAddress = false)
    (h : (r.reserve sur ipam).2 = .ok (some a)) :
    ∃ address : IpAddress, address.plain = true ∧ a.ipAddress = address.text := by
  have hauto : ∀ req, (autoAllocateIp sur ipam req).2 = .done a →
      ∃ address : IpAddress, address.plain = true ∧ a.ipAddress = address.text := by
    intro req hdone
    unfold autoAllocateIp at hdone
    split at hdone
    · cases hdone
    case h_2 ip hnext =>
      obtain ⟨address, hplain, rfl⟩ := exists_text_of_next hnext
      exact ⟨address, hplain, ipAddress_of_allocateIp hdone⟩
  unfold Reservation.reserve at h
  split at h
  · cases h
  case h_2 networkId hid =>
    have hcall : r.allocate networkId sur ipam =
        autoAllocateIp sur ipam (r.request networkId "" r.autoNotes) :=
      if_neg (by rw [hip]; exact Bool.false_ne_true)
    rw [hcall] at h
    rcases hrun : autoAllocateIp sur ipam (r.request networkId "" r.autoNotes)
      with ⟨ipam', outcome⟩
    rw [hrun] at h
    cases outcome with
    | done b =>
      cases h
      exact hauto _ (congrArg Prod.snd hrun)
    | refused e => cases h
    | raised e => cases h

/-! ### The card of a request -/

section Request

variable {req : LXCDeployRequest} {sur : Surroundings} {a : Option IPAMAllocation}

/-- The mask and the gateway that the worker looks up are those that are asked for. -/
theorem netConfig_asked (ip : Option String) (haddress : askedAddress req sur a ≠ some .dhcp) :
    (netConfig sur ip req.ipamNetworkId req.gateway).ip = ip ∧
      (netConfig sur ip req.ipamNetworkId req.gateway).mask = askedMask req sur ∧
      (netConfig sur ip req.ipamNetworkId req.gateway).gateway.filter (· ≠ "") =
        askedGateway req sur a := by
  have hfilter : truthy req.gateway = true → req.gateway.filter (· ≠ "") = req.gateway := by
    intro h
    cases hg : req.gateway with
    | none => rfl
    | some gateway =>
      rw [hg] at h
      exact Option.filter_eq_some_iff.mpr ⟨rfl, h⟩
  have hnone : truthy req.gateway = false → req.gateway.filter (· ≠ "") = none := by
    intro h
    cases hg : req.gateway with
    | none => rfl
    | some gateway =>
      rw [hg] at h
      refine Option.filter_eq_none_iff.mpr fun text ht => ?_
      rw [← Option.some.inj ht]
      exact ne_true_of_eq_false h
  unfold netConfig askedMask askedGateway
  rw [if_neg haddress]
  unfold askedNetwork
  cases (req.ipamNetworkId.filter (· ≠ 0)).bind sur.networks.find? with
  | none =>
    refine ⟨rfl, rfl, ?_⟩
    by_cases hgateway : truthy req.gateway = true
    · rw [if_pos hgateway, hfilter hgateway]
    · rw [if_neg hgateway, hnone (Bool.eq_false_iff.mpr hgateway)]
      rfl
  | some network =>
    refine ⟨rfl, rfl, ?_⟩
    dsimp only
    by_cases hgateway : truthy req.gateway = true
    · rw [if_pos hgateway, if_neg (by rw [hgateway]; exact fun h => by cases h.1),
        hfilter hgateway]
    · rw [if_neg hgateway, Option.bind_some]
      split
      · rfl
      case isFalse hnetwork =>
        have hfalse := Bool.eq_false_iff.mpr hgateway
        rw [hnone hfalse]
        symm
        refine Option.filter_eq_none_iff.mpr fun text ht => ?_
        intro htext
        refine hnetwork ⟨hfalse, ?_⟩
        rw [ht]
        exact htext

/-- A card with an address says what was asked exactly if its texts are plain. -/
theorem says_address_iff {ρ : Type} {asFloat : String → Option ρ} {ip : String} (hne : ip ≠ "")
    (haddress : askedAddress req sur a = some (.static ip (askedMask req sur))) :
    Says asFloat (net0Text req.bridge (netConfig sur (some ip) req.ipamNetworkId req.gateway))
        (asked req sur a) ↔
      req.bridge ≠ "" ∧ Unseparated req.bridge ∧ Unslashed ip ∧
        (',' ∉ (askedMask req sur).toList ∧
          rstrip (askedMask req sur).toList = (askedMask req sur).toList) ∧
        ∀ gateway, askedGateway req sur a = some gateway → Unseparated gateway := by
  have hdhcp : askedAddress req sur a ≠ some .dhcp := by
    rw [haddress]
    exact fun h => by cases h
  obtain ⟨hip, hmask, hgateway⟩ := netConfig_asked (some ip) hdhcp
  have htruthy : truthy (netConfig sur (some ip) req.ipamNetworkId req.gateway).ip = true := by
    rw [hip]
    exact decide_eq_true hne
  have hsays := says_static_iff asFloat req.bridge htruthy
  rw [hip, hmask, hgateway] at hsays
  have hasked : asked req sur a = ⟨"eth0", req.bridge, some (.static ip (askedMask req sur)),
      askedGateway req sur a, true⟩ := by
    unfold asked
    rw [haddress]
  rw [hasked]
  exact hsays

/-- For a card with an address the condition is about its texts alone. -/
theorem plainNet_iff {ip : String}
    (haddress : askedAddress req sur a = some (.static ip (askedMask req sur)))
    (hparts : (∀ ip', req.ipAddress = some ip' → Unslashed ip') ↔ Unslashed ip) :
    PlainNet req sur a ↔
      req.bridge ≠ "" ∧ Unseparated req.bridge ∧ Unslashed ip ∧
        (',' ∉ (askedMask req sur).toList ∧
          rstrip (askedMask req sur).toList = (askedMask req sur).toList) ∧
        ∀ gateway, askedGateway req sur a = some gateway → Unseparated gateway := by
  constructor
  · exact fun h => ⟨h.bridge_ne, h.bridge, hparts.mp h.ip, h.mask, h.gateway⟩
  · rintro ⟨hbridge_ne, hbridge, hip, hmask, hgateway⟩
    refine ⟨hbridge_ne, hbridge, hparts.mpr hip, hmask, hgateway, fun hauto => ?_, fun hdhcp => ?_⟩
    · have hnone : ¬truthy req.ipAddress = true := by
        intro h
        unfold automatic at hauto
        rw [h, Bool.not_true, Bool.and_false] at hauto
        cases hauto
      unfold askedAddress at haddress
      rw [if_neg hnone, if_pos hauto] at haddress
      obtain ⟨b, hb, -⟩ := Option.map_eq_some_iff.mp haddress
      rw [hb]
      rfl
    · rw [haddress] at hdhcp
      cases hdhcp

variable {w : World} {sender : Sender} {p : Place}

theorem lxcNet_of_address {ip : String} (hne : ip ≠ "")
    (h : (lxcReservation req sender p).address a = some ip) :
    lxcNet w req sender p a = netConfig w.sur (some ip) req.ipamNetworkId req.gateway := by
  have htruthy : truthy (some ip) = true := decide_eq_true hne
  unfold lxcNet
  dsimp only
  rw [h, if_pos htruthy]

theorem truthy_lxcNet_ip (h : truthy ((lxcReservation req sender p).address a) = false) :
    truthy (lxcNet w req sender p a).ip = false := by
  unfold lxcNet netConfig
  dsimp only
  split
  · exact h
  · exact h

/-- Without a network nothing is allocated. -/
theorem eq_none_of_reserve {r : Reservation} (hnetwork : r.networkId.filter (· ≠ 0) = none)
    {ipam : Ipam} (h : (r.reserve sur ipam).2 = .ok a) : a = none := by
  unfold Reservation.reserve at h
  rw [hnetwork] at h
  exact (Except.ok.inj h).symm

/-- Without an address the condition is about the bridge, and nothing else may be asked for. -/
theorem plainNet_none_iff (hip : truthy req.ipAddress = false)
    (hparts : ∀ ip, req.ipAddress = some ip → Unslashed ip) :
    (req.bridge ≠ "" ∧ Unseparated req.bridge ∧ askedAddress req sur none = some .dhcp ∧
      askedGateway req sur none = none) ↔ PlainNet req sur none := by
  have hnotgiven : ¬truthy req.ipAddress = true := Bool.eq_false_iff.mp hip
  cases hauto : automatic req.ipamNetworkId req.ipAddress with
  | true =>
    have haddress : askedAddress req sur none = none := by
      unfold askedAddress
      rw [if_neg hnotgiven, if_pos hauto]
      rfl
    constructor
    · rintro ⟨-, -, hdhcp, -⟩
      rw [haddress] at hdhcp
      cases hdhcp
    · intro hp
      have hallocated := hp.allocated hauto
      cases hallocated
  | false =>
    have haddress : askedAddress req sur none = some .dhcp := by
      unfold askedAddress
      rw [if_neg hnotgiven, if_neg (Bool.eq_false_iff.mp hauto)]
    have hmask : askedMask req sur = "24" := by
      unfold automatic at hauto
      rw [hip, Bool.not_false, Bool.and_true, Option.isSome_eq_false_iff,
        Option.isNone_iff_eq_none] at hauto
      unfold askedMask askedNetwork
      rw [hauto]
      rfl
    have hgateway : askedGateway req sur none = none ↔ truthy req.gateway = false := by
      unfold askedGateway
      cases hgw : truthy req.gateway with
      | true =>
        obtain ⟨gateway, hsome⟩ := Option.isSome_iff_exists.mp (Option.isSome_of_any hgw)
        simp [hsome]
      | false => simp [haddress]
    constructor
    · rintro ⟨hne, hbridge, -, hgw⟩
      refine ⟨hne, hbridge, hparts, ?_, ?_, ?_, fun _ => hgateway.mp hgw⟩
      · rw [hmask]
        exact ⟨by simp, by decide⟩
      · intro gateway h
        rw [hgw] at h
        cases h
      · rw [hauto]
        intro h
        cases h
    · exact fun hp => ⟨hp.bridge_ne, hp.bridge, haddress, hgateway.mpr (hp.dhcp haddress)⟩

end Request

/-- The card of a container is read as what its request asks exactly if the texts of the request
and of its network have no separators of their own, IPAM has an address where one is left to it,
and a gateway comes with an address. -/
theorem says_iff_plainNet {ρ : Type} (asFloat : String → Option ρ) (w : World)
    (req : LXCDeployRequest) (sender : Sender) (p : Place) (ipam : Ipam)
    (a : Option IPAMAllocation)
    (h : ((lxcReservation req sender p).reserve w.sur ipam).2 = .ok a) :
    Says asFloat (lxcParams req sender p (lxcNet w req sender p a)).net0 (asked req w.sur a) ↔
      PlainNet req w.sur a := by
  have hnet0 : (lxcParams req sender p (lxcNet w req sender p a)).net0 =
      net0Text req.bridge (lxcNet w req sender p a) := rfl
  rw [hnet0]
  cases hip : truthy req.ipAddress with
  | true =>
    obtain ⟨ip, hreq⟩ := Option.isSome_iff_exists.mp (Option.isSome_of_any hip)
    have hne : ip ≠ "" := by
      rw [hreq] at hip
      exact of_decide_eq_true hip
    have haddress : askedAddress req w.sur a = some (.static ip (askedMask req w.sur)) := by
      unfold askedAddress
      rw [if_pos hip, hreq]
      rfl
    have hgiven : (lxcReservation req sender p).address a = some ip := (if_pos hip).trans hreq
    rw [lxcNet_of_address hne hgiven, says_address_iff hne haddress]
    refine (plainNet_iff haddress ⟨fun hall => hall ip hreq, fun hip ip' hip' => ?_⟩).symm
    rw [hreq] at hip'
    cases hip'
    exact hip
  | false =>
    have hnotgiven : ¬truthy req.ipAddress = true := Bool.eq_false_iff.mp hip
    have hgiven : (lxcReservation req sender p).address a =
        (a.map IPAMAllocation.ipAddress).or req.ipAddress := if_neg hnotgiven
    have hempty : ∀ ip, req.ipAddress = some ip → Unslashed ip := by
      intro ip hreq
      rw [hreq] at hip
      rw [not_not.mp (of_decide_eq_false hip)]
      exact ⟨by simp, by simp, by simp⟩
    cases a with
    | some b =>
      -- IPAM chose the address, and its text is plain.
      obtain ⟨address, hplain, htext⟩ := exists_text_of_reserve hip h
      have hauto : automatic req.ipamNetworkId req.ipAddress = true := by
        unfold automatic
        rw [hip, Bool.not_false, Bool.and_true]
        by_contra hnone
        have hnone := Option.not_isSome_iff_eq_none.mp hnone
        cases eq_none_of_reserve (r := lxcReservation req sender p) hnone h
      have haddress : askedAddress req w.sur (some b) =
          some (.static address.text (askedMask req w.sur)) := by
        unfold askedAddress
        rw [if_neg hnotgiven, if_pos hauto, Option.map_some, htext]
      have hne : address.text ≠ "" := text_ne_empty (IpAddress.wellScoped_of_plain hplain)
      have hunslashed : Unslashed address.text := by
        refine ⟨fun hmem => ?_, fun hmem => ?_, dropWhile_isSpace fun c hc => ?_⟩
        · exact (plain_text hplain ',' hmem).1.1 rfl
        · exact (plain_text hplain '/' hmem).1.2 rfl
        · exact (plain_text hplain c hc).2
      rw [lxcNet_of_address hne (hgiven.trans (congrArg some htext)), says_address_iff hne haddress]
      exact (plainNet_iff haddress ⟨fun _ => hunslashed, fun _ => hempty⟩).symm
    | none =>
      -- No address was given and none allocated: the card asks for one by DHCP.
      have htruthy : truthy (lxcNet w req sender p none).ip = false :=
        truthy_lxcNet_ip (by rw [hgiven]; exact hip)
      exact (says_dhcp_iff asFloat htruthy).trans (plainNet_none_iff hip hempty)

/-- A container by DHCP. -/
def plainContainer : LXCDeployRequest :=
  { officeContainer "" with
    ipAddress := none
    ipamNetworkId := none }

/-- A container whose bridge brings a VLAN tag along. -/
def taggedContainer : LXCDeployRequest := { plainContainer with bridge := "vmbr0,tag=5" }

theorem taggedContainer_not_says : ¬Says (fun _ => (none : Option Nat))
    (lxcParams taggedContainer ⟨1, "admin", none⟩ ⟨1, "pve", 100⟩
      (lxcNet calm taggedContainer ⟨1, "admin", none⟩ ⟨1, "pve", 100⟩ none)).net0
    (asked taggedContainer calm.sur none) := by
  intro h
  have hcomma := (noCommas_parse _ "net0" _).bridge _ h.bridge
  exact hcomma (by simp [asked, taggedContainer])

theorem says_iff_plainNet_dhcp : Says (fun _ => (none : Option Nat))
    (lxcParams plainContainer ⟨1, "admin", none⟩ ⟨1, "pve", 100⟩
      (lxcNet calm plainContainer ⟨1, "admin", none⟩ ⟨1, "pve", 100⟩ none)).net0
    (asked plainContainer calm.sur none) := by
  refine (says_iff_plainNet _ calm plainContainer ⟨1, "admin", none⟩ ⟨1, "pve", 100⟩ ⟨.empty, []⟩
    none rfl).mpr ⟨?_, ⟨?_, ?_⟩, ?_, ⟨?_, ?_⟩, ?_, ?_, ?_⟩
  · simp [plainContainer, officeContainer]
  · simp [plainContainer, officeContainer]
  · decide
  · intro ip h
    cases h
  · simp [askedMask, askedNetwork, plainContainer]
  · decide
  · intro gateway h
    cases h
  · intro h
    cases h
  · exact fun _ => rfl

end PveManager.Deploy
