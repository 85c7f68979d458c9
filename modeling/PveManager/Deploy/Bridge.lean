import Mathlib.Data.List.TakeWhile
import PveManager.Api.Visibility
import PveManager.Core.IpText

/-!
# The bridge of a configured machine

A configured machine gets another bridge by an edit of the text of its network card; the panel
reads such texts field by field. For a card as Proxmox writes it, the edit changes the bridge
and nothing else that is read.
-/

namespace PveManager.Deploy

open PveManager.Core PveManager.Api

/-! ### Reading a card -/

/-- The card models of QEMU; the model is the key of the MAC address. -/
def qemuModels : List String :=
  ["virtio", "e1000", "e1000e", "e1000-82540em", "e1000-82544gc", "e1000-82545em", "rtl8139",
    "vmxnet3", "ne2k_pci", "ne2k_isa", "pcnet", "i82551", "i82557b", "i82559er"]

/-- One network card; `ρ` are the values of `float`. -/
structure ParsedNic (ρ : Type) where
  key : String
  index : Nat
  model : Option String
  mac : Option String
  bridge : Option String
  vlanTag : Option Int
  trunks : List Int
  firewall : Bool
  linkDown : Bool
  name : Option String
  ip : Option String
  ip6 : Option String
  gw : Option String
  gw6 : Option String
  rate : Option ρ
  mtu : Option Int
  queues : Option Int
  raw : String

/-- `s or None`. -/
def orNone (s : String) : Option String := if s = "" then none else some s

/-- `_as_bool`. -/
def asBool (value : String) : Bool :=
  ["1", "true", "yes", "on"].contains (String.ofList ((stripChars value.toList).map Char.toLower))

/-- `str.upper`; MAC addresses have ASCII letters only. -/
def upper (s : String) : String := String.ofList (s.toList.map Char.toUpper)

/-- The number in a key `netN`. -/
def netIndex (key : String) : Option Nat :=
  if "net".toList.isPrefixOf key.toList && !(key.toList.drop 3).isEmpty &&
      (key.toList.drop 3).all Char.isDigit then
    some ((key.toList.drop 3).foldl (fun n c => 10 * n + (c.toNat - '0'.toNat)) 0)
  else none

/-- The option and the value of a token; a token without `=` carries nothing. -/
def readToken (token : List Char) : Option (String × String) :=
  let token := stripChars token
  if token.contains '=' then
    some (String.ofList ((stripChars (token.takeWhile (· ≠ '='))).map Char.toLower),
      String.ofList (stripChars ((token.dropWhile (· ≠ '=')).drop 1)))
  else none

section Parse

variable {ρ : Type} (asFloat : String → Option ρ)

/-- One option of a card. -/
def setOption (nic : ParsedNic ρ) (option : String × String) : ParsedNic ρ :=
  let val := option.2
  if option.1 ∈ qemuModels then
    { nic with
      model := some option.1
      mac := orNone (upper val) }
  else
    match option.1 with
    | "hwaddr" => { nic with mac := orNone (upper val) }
    | "bridge" => { nic with bridge := orNone val }
    | "tag" => { nic with vlanTag := parseInt val }
    | "trunks" =>
      { nic with trunks := (val.toList.splitOn ';').filterMap fun p => parseInt (String.ofList p) }
    | "firewall" => { nic with firewall := asBool val }
    | "link_down" => { nic with linkDown := asBool val }
    | "name" => { nic with name := orNone val }
    | "ip" => { nic with ip := orNone val }
    | "ip6" => { nic with ip6 := orNone val }
    | "gw" => { nic with gw := orNone val }
    | "gw6" => { nic with gw6 := orNone val }
    | "rate" => { nic with rate := asFloat val }
    | "mtu" => { nic with mtu := parseInt val }
    | "queues" => { nic with queues := parseInt val }
    | _ => nic

/-- A card before its options are read. -/
def emptyNic (key raw : String) : ParsedNic ρ :=
  ⟨key, (netIndex key).getD 0, none, none, none, none, [], false, false, none, none, none, none,
    none, none, none, none, raw⟩

/-- The options of a text in their order. -/
def options (text : List Char) : List (String × String) := (text.splitOn ',').filterMap readToken

/-- `parse_net_string`. -/
def parseNetString (key value : String) : ParsedNic ρ :=
  (options value.toList).foldl (setOption asFloat) (emptyNic key value)

end Parse

/-! ### Editing a card -/

/-- A token of the text with the new bridge in it. -/
def withBridge (bridge : String) (token : List Char) : List Char :=
  if "bridge=".toList.isPrefixOf token then "bridge=".toList ++ bridge.toList else token

/-- The tokens of a card that are not blank. -/
def tokens (existing : String) : List (List Char) :=
  (existing.toList.splitOn ',').filter fun token => !(stripChars token).isEmpty

/-- The tokens with the new bridge, which comes last where there was none. -/
def newTokens (bridge : String) (existing : String) : List (List Char) :=
  let parts := tokens existing
  parts.map (withBridge bridge) ++
    if parts.any fun token => "bridge=".toList.isPrefixOf token then []
    else ["bridge=".toList ++ bridge.toList]

/-- The card with the new bridge. -/
def net0Value (existing : Option String) (networkBridge : String) : String :=
  if truthy existing then
    String.ofList ([','].intercalate (newTokens networkBridge (existing.getD "")))
  else "virtio,bridge=" ++ networkBridge

/-- The text of `net0` that `configure_vm` writes, if it writes one. -/
def networkParam (existing networkBridge : Option String) : Option String :=
  if truthy networkBridge then some (net0Value existing (networkBridge.getD "")) else none

/-! ### Cards as Proxmox writes them -/

/-- The name of an option: small letters, digits, underscores and hyphens. -/
structure OptionName where
  chars : List Char
  ne_nil : chars ≠ []
  plain : ∀ c ∈ chars, (c.isLower || c.isDigit || c == '_' || c == '-') = true

/-- A value: anything without a comma. -/
structure OptionValue where
  chars : List Char
  no_comma : ',' ∉ chars

/-- A card: the model, with or without a MAC address, and options in any order. -/
structure NetCard where
  model : OptionName
  mac : Option OptionValue
  options : List (OptionName × OptionValue)

/-- An option with its value. -/
def optionToken (option : OptionName × OptionValue) : List Char :=
  option.1.chars ++ '=' :: option.2.chars

/-- The parts of a card's text. -/
def NetCard.tokens (card : NetCard) : List (List Char) :=
  (match card.mac with
    | none => card.model.chars
    | some mac => optionToken (card.model, mac)) :: card.options.map optionToken

def NetCard.text (card : NetCard) : String := String.ofList ([','].intercalate card.tokens)

/-! ### The bridge among the options -/

section Fold

variable {ρ : Type} (asFloat : String → Option ρ)

/-- The card of another text and with another bridge. -/
def ParsedNic.on (nic : ParsedNic ρ) (bridge : Option String) (raw : String) : ParsedNic ρ :=
  { nic with
    bridge := bridge
    raw := raw }

theorem ParsedNic.on_on (nic : ParsedNic ρ) (bridge bridge' : Option String) (raw raw' : String) :
    (nic.on bridge raw).on bridge' raw' = nic.on bridge' raw' := rfl

/-- An option other than the bridge does not depend on the bridge and leaves it. -/
theorem setOption_on {option : String × String} (h : option.1 ≠ "bridge") (nic : ParsedNic ρ)
    (bridge : Option String) (raw : String) :
    setOption asFloat (nic.on bridge raw) option =
      (setOption asFloat nic option).on bridge raw := by
  unfold setOption ParsedNic.on
  split
  · rfl
  · split
    case h_2 heq => exact absurd heq h
    all_goals dsimp only

/-- The option of the bridge changes the bridge alone. -/
theorem setOption_bridge {option : String × String} (h : option.1 = "bridge") (nic : ParsedNic ρ)
    (bridge : Option String) (raw : String) :
    setOption asFloat (nic.on bridge raw) option = nic.on (orNone option.2) raw := by
  obtain ⟨name, val⟩ := option
  obtain rfl : name = "bridge" := h
  have hmodel : "bridge" ∉ qemuModels := by simp [qemuModels]
  unfold setOption
  rw [if_neg hmodel]
  rfl

/-- The bridge that some options leave. -/
def lastBridge (bridge : Option String) (opts : List (String × String)) : Option String :=
  opts.foldl (fun b option => if option.1 = "bridge" then orNone option.2 else b) bridge

/-- The options other than the bridge. -/
def otherOptions (opts : List (String × String)) : List (String × String) :=
  opts.filter fun option => option.1 ≠ "bridge"

/-- What is read of a card is what the other options say, with the last bridge. -/
theorem foldl_setOption (raw : String) (opts : List (String × String)) (nic : ParsedNic ρ)
    (bridge : Option String) :
    opts.foldl (setOption asFloat) (nic.on bridge raw) =
      ((otherOptions opts).foldl (setOption asFloat) nic).on (lastBridge bridge opts) raw := by
  induction opts generalizing nic bridge with
  | nil => rfl
  | cons option opts ih =>
    unfold lastBridge otherOptions
    rw [List.foldl_cons, List.foldl_cons]
    by_cases h : option.1 = "bridge"
    · rw [setOption_bridge asFloat h, ih, List.filter_cons_of_neg (by simpa using h), if_pos h]
      rfl
    · rw [setOption_on asFloat h, ih, List.filter_cons_of_pos (by simpa using h), if_neg h,
        List.foldl_cons]
      rfl

theorem parseNetString_eq (key value : String) :
    parseNetString asFloat key value =
      ((otherOptions (options value.toList)).foldl (setOption asFloat) (emptyNic key "")).on
        (lastBridge none (options value.toList)) value :=
  foldl_setOption asFloat value (options value.toList) (emptyNic key "") none

end Fold

/-- Where all bridges are one and there is one, it is the last. -/
theorem lastBridge_eq {value : String} {opts : List (String × String)}
    (hall : ∀ option ∈ opts, option.1 = "bridge" → option.2 = value) (bridge : Option String)
    (h : bridge = orNone value ∨ ∃ option ∈ opts, option.1 = "bridge") :
    lastBridge bridge opts = orNone value := by
  induction opts generalizing bridge with
  | nil => simpa [lastBridge] using h
  | cons option opts ih =>
    obtain ⟨hoption, hall⟩ := List.forall_mem_cons.mp hall
    unfold lastBridge
    rw [List.foldl_cons]
    by_cases hname : option.1 = "bridge"
    · rw [if_pos hname, hoption hname]
      exact ih hall _ (Or.inl rfl)
    · rw [if_neg hname]
      refine ih hall bridge (h.imp id fun ⟨o, ho, hbridge⟩ => ?_)
      rcases List.mem_cons.mp ho with rfl | ho
      · exact absurd hbridge hname
      · exact ⟨o, ho, hbridge⟩

/-! ### Tokens -/

section Tokens

variable {bridge : String} {name value token : List Char}

/-- `str.rstrip` on characters. -/
def rstrip (chars : List Char) : List Char := (chars.reverse.dropWhile isSpace).reverse

theorem rstrip_append_blanks {chars blanks : List Char} (h : ∀ c ∈ blanks, isSpace c = true) :
    rstrip (chars ++ blanks) = rstrip chars := by
  unfold rstrip
  rw [List.reverse_append,
    List.dropWhile_append_of_pos fun c hc => h c (List.mem_reverse.mp hc)]

/-- Blanks are removed up to a character that is none. -/
theorem rstrip_append_cons {sep : Char} (hsep : isSpace sep = false) (before after : List Char) :
    rstrip (before ++ sep :: after) = before ++ sep :: rstrip after := by
  have hend : (sep :: before.reverse).dropWhile isSpace = sep :: before.reverse := by
    rw [List.dropWhile_cons, hsep, if_neg Bool.false_ne_true]
  unfold rstrip
  rw [List.reverse_append, List.reverse_cons, List.append_assoc, List.singleton_append,
    List.dropWhile_append, hend]
  split
  case isTrue h =>
    rw [List.isEmpty_iff.mp h]
    simp
  case isFalse h => simp

/-- The part in front of such a character loses its first blanks, the part behind it its last. -/
theorem stripChars_append_cons {sep : Char} (hsep : isSpace sep = false)
    (before after : List Char) : stripChars (before ++ sep :: after) =
      before.dropWhile isSpace ++ sep :: rstrip after := by
  have hhead : (before ++ sep :: after).dropWhile isSpace =
      before.dropWhile isSpace ++ sep :: after := by
    have hsep' : (sep :: after).dropWhile isSpace = sep :: after := by
      rw [List.dropWhile_cons, hsep, if_neg Bool.false_ne_true]
    rw [List.dropWhile_append, hsep']
    split
    case isTrue h => rw [List.isEmpty_iff.mp h, List.nil_append]
    case isFalse h => rfl
  have hstrip : stripChars (before ++ sep :: after) =
      rstrip ((before ++ sep :: after).dropWhile isSpace) := rfl
  rw [hstrip, hhead, rstrip_append_cons hsep]

theorem stripChars_rstrip (chars : List Char) : stripChars (rstrip chars) = stripChars chars := by
  have hblank : ∀ c ∈ (chars.reverse.takeWhile isSpace).reverse, isSpace c = true :=
    fun c hc => List.mem_takeWhile_imp (List.mem_reverse.mp hc)
  have hsplit : chars = rstrip chars ++ (chars.reverse.takeWhile isSpace).reverse := by
    unfold rstrip
    rw [← List.reverse_append, List.takeWhile_append_dropWhile, List.reverse_reverse]
  have hstrip : ∀ chars, stripChars chars = rstrip (chars.dropWhile isSpace) := fun _ => rfl
  conv_rhs => rw [hsplit]
  rw [hstrip, hstrip, List.dropWhile_append]
  split
  case isTrue h =>
    rw [List.isEmpty_iff.mp h, List.dropWhile_eq_nil_iff.mpr hblank]
  case isFalse h => rw [rstrip_append_blanks hblank]

/-- A token is read at its first `=`. -/
theorem readToken_option (hname : ∀ c ∈ name, isSpace c = false ∧ c ≠ '=') :
    readToken (name ++ '=' :: value) =
      some (String.ofList (name.map Char.toLower), String.ofList (stripChars value)) := by
  have htake : ∀ rest : List Char, (name ++ '=' :: rest).takeWhile (· ≠ '=') = name := by
    intro rest
    rw [List.takeWhile_append_of_pos fun c hc => decide_eq_true (hname c hc).2]
    simp
  have hdrop : ∀ rest : List Char, (name ++ '=' :: rest).dropWhile (· ≠ '=') = '=' :: rest := by
    intro rest
    rw [List.dropWhile_append_of_pos fun c hc => decide_eq_true (hname c hc).2]
    simp
  have hmem : ∀ rest : List Char, (name ++ '=' :: rest).contains '=' = true := by simp
  unfold readToken
  dsimp only
  rw [stripChars_append_cons rfl, dropWhile_isSpace fun c hc => (hname c hc).1, if_pos (hmem _),
    htake, hdrop, stripChars_of_no_space fun c hc => (hname c hc).1, List.drop_one, List.tail_cons,
    stripChars_rstrip]

/-- A token without `=` carries nothing. -/
theorem readToken_eq_none (h : '=' ∉ token) : readToken token = none := by
  have hmem : '=' ∉ stripChars token := by
    unfold stripChars
    rw [List.mem_reverse]
    intro hmem
    have hmem := List.mem_reverse.mp ((List.dropWhile_suffix _).mem hmem)
    exact h ((List.dropWhile_suffix _).mem hmem)
  unfold readToken
  dsimp only
  rw [if_neg (by simpa using hmem)]

/-- A blank token carries nothing. -/
theorem readToken_of_blank (h : (stripChars token).isEmpty = true) : readToken token = none := by
  unfold readToken
  dsimp only
  rw [List.isEmpty_iff.mp h]
  rfl

/-- The token of a bridge is read as one. -/
theorem readToken_bridge (value : List Char) :
    readToken ("bridge=".toList ++ value) =
      some ("bridge", String.ofList (stripChars value)) := by
  have hname : ∀ c ∈ "bridge".toList, isSpace c = false ∧ c ≠ '=' := by simp [isSpace]
  have htoken : "bridge=".toList ++ value = "bridge".toList ++ '=' :: value := by simp
  have hlower : String.ofList ("bridge".toList.map Char.toLower) = "bridge" := by simp
  rw [htoken, readToken_option hname, hlower]

/-- The new token is read as the new bridge. -/
theorem readToken_newBridge (hspace : ∀ c ∈ value, isSpace c = false) :
    readToken ("bridge=".toList ++ value) = some ("bridge", String.ofList value) := by
  rw [readToken_bridge, stripChars_of_no_space hspace]

/-- The new bridge in a token does not touch another option. -/
theorem otherOptions_withBridge (parts : List (List Char)) :
    otherOptions ((parts.map (withBridge bridge)).filterMap readToken) =
      otherOptions (parts.filterMap readToken) := by
  induction parts with
  | nil => rfl
  | cons part parts ih =>
    rw [List.map_cons]
    unfold otherOptions at ih ⊢
    by_cases h : "bridge=".toList.isPrefixOf part = true
    · obtain ⟨rest, rfl⟩ := List.isPrefixOf_iff_prefix.mp h
      have hnew : withBridge bridge ("bridge=".toList ++ rest) =
          "bridge=".toList ++ bridge.toList := if_pos h
      rw [hnew, List.filterMap_cons_some (readToken_bridge _),
        List.filterMap_cons_some (readToken_bridge _), List.filter_cons_of_neg (by simp),
        List.filter_cons_of_neg (by simp), ih]
    · have hold : withBridge bridge part = part := if_neg h
      rw [hold, List.filterMap_cons, List.filterMap_cons]
      cases readToken part with
      | none => exact ih
      | some option => rw [List.filter_cons, List.filter_cons, ih]

end Tokens

/-! ### The edited text -/

section Edit

variable {bridge existing : String}

theorem options_tokens : (tokens existing).filterMap readToken = options existing.toList := by
  unfold tokens options
  rw [List.filterMap_filter]
  refine List.filterMap_congr fun token _ => ?_
  by_cases h : (stripChars token).isEmpty = true
  · rw [readToken_of_blank h, h]
    rfl
  · rw [if_pos (by simpa using h)]

theorem comma_notMem_newTokens (hcomma : ',' ∉ bridge.toList) :
    ∀ token ∈ newTokens bridge existing, ',' ∉ token := by
  have hnew : ',' ∉ "bridge=".toList ++ bridge.toList := by simpa using hcomma
  intro token htoken
  rcases List.mem_append.mp htoken with htoken | htoken
  · obtain ⟨part, hpart, rfl⟩ := List.mem_map.mp htoken
    unfold withBridge
    split
    · exact hnew
    · exact Net.IpAddress.not_mem_of_mem_splitOn (List.mem_filter.mp hpart).1
  · split at htoken
    · exact absurd htoken List.not_mem_nil
    · rwa [List.mem_singleton.mp htoken]

theorem newTokens_ne_nil : newTokens bridge existing ≠ [] := by
  unfold newTokens
  dsimp only
  cases tokens existing with
  | nil => simp
  | cons part parts => simp

/-- The edited text has the options of its tokens. -/
theorem options_net0Value (hcomma : ',' ∉ bridge.toList) (hne : existing ≠ "") :
    options (net0Value (some existing) bridge).toList =
      (newTokens bridge existing).filterMap readToken := by
  have htruthy : truthy (some existing) = true := decide_eq_true hne
  unfold net0Value options
  rw [if_pos htruthy, String.toList_ofList]
  exact congrArg (List.filterMap readToken)
    (List.splitOn_intercalate ',' (comma_notMem_newTokens hcomma) newTokens_ne_nil)

/-- The edit leaves the other options. -/
theorem otherOptions_net0Value (hcomma : ',' ∉ bridge.toList) (hne : existing ≠ "") :
    otherOptions (options (net0Value (some existing) bridge).toList) =
      otherOptions (options existing.toList) := by
  rw [options_net0Value hcomma hne, ← options_tokens]
  unfold newTokens
  dsimp only
  rw [List.filterMap_append, otherOptions, List.filter_append]
  have hlast : List.filter (fun option => option.1 ≠ "bridge") (List.filterMap readToken
      (if (tokens existing).any fun token => "bridge=".toList.isPrefixOf token then []
        else ["bridge=".toList ++ bridge.toList])) = [] := by
    split
    · rfl
    · rw [List.filterMap_cons_some (readToken_bridge _), List.filter_cons_of_neg (by simp)]
      rfl
  rw [hlast, List.append_nil]
  exact otherOptions_withBridge (tokens existing)

/-- Where each bridge stands at the beginning of its token, the last one is the new one. -/
theorem lastBridge_net0Value (hne : existing ≠ "")
    (hplain : ∀ c ∈ bridge.toList, c ≠ ',' ∧ isSpace c = false)
    (hfront : ∀ token ∈ existing.toList.splitOn ',', ∀ value,
      readToken token = some ("bridge", value) → "bridge=".toList <+: token) :
    lastBridge none (options (net0Value (some existing) bridge).toList) = orNone bridge := by
  have hcomma : ',' ∉ bridge.toList := fun hmem => (hplain ',' hmem).1 rfl
  have hread : readToken ("bridge=".toList ++ bridge.toList) = some ("bridge", bridge) := by
    rw [readToken_newBridge fun c hc => (hplain c hc).2, String.ofList_toList]
  rw [options_net0Value hcomma hne]
  refine lastBridge_eq (fun option hoption hname => ?_) none (Or.inr ?_)
  · obtain ⟨token, htoken, hoption⟩ := List.mem_filterMap.mp hoption
    rcases List.mem_append.mp htoken with htoken | htoken
    · obtain ⟨part, hpart, rfl⟩ := List.mem_map.mp htoken
      unfold withBridge at hoption
      split at hoption
      · rw [hread] at hoption
        rw [← Option.some.inj hoption]
      · -- A token that is kept does not begin with the bridge, so it is none.
        rename_i hkept
        obtain ⟨name, value⟩ := option
        obtain rfl : name = "bridge" := hname
        have hpart := hfront part (List.mem_filter.mp hpart).1 value hoption
        exact absurd (List.isPrefixOf_iff_prefix.mpr hpart) hkept
    · split at htoken
      · exact absurd htoken List.not_mem_nil
      · rw [List.mem_singleton.mp htoken, hread] at hoption
        rw [← Option.some.inj hoption]
  · refine ⟨("bridge", bridge), List.mem_filterMap.mpr ⟨_, ?_, hread⟩, rfl⟩
    refine List.mem_append.mpr ?_
    by_cases hany : ((tokens existing).any fun token => "bridge=".toList.isPrefixOf token) = true
    · obtain ⟨part, hpart, hbridge⟩ := List.any_eq_true.mp hany
      exact Or.inl (List.mem_map.mpr ⟨part, hpart, if_pos hbridge⟩)
    · exact Or.inr (by rw [if_neg hany]; exact List.mem_singleton_self _)

/-- The edit changes the bridge and nothing else that is read. -/
theorem parseNetString_net0Value {ρ : Type} (asFloat : String → Option ρ) (key : String)
    (hne : existing ≠ "") (hbridge : bridge ≠ "")
    (hplain : ∀ c ∈ bridge.toList, c ≠ ',' ∧ isSpace c = false)
    (hfront : ∀ token ∈ existing.toList.splitOn ',', ∀ value,
      readToken token = some ("bridge", value) → "bridge=".toList <+: token) :
    parseNetString asFloat key (net0Value (some existing) bridge) =
      (parseNetString asFloat key existing).on (some bridge)
        (net0Value (some existing) bridge) := by
  have hcomma : ',' ∉ bridge.toList := fun hmem => (hplain ',' hmem).1 rfl
  have hsome : orNone bridge = some bridge := if_neg hbridge
  rw [parseNetString_eq, parseNetString_eq, otherOptions_net0Value hcomma hne,
    lastBridge_net0Value hne hplain hfront, hsome, ParsedNic.on_on]

end Edit

/-! ### Cards as Proxmox writes them -/

section Card

variable (card : NetCard)

/-- The characters of a name are kept by the reader. -/
theorem plain_char {c : Char} (h : (c.isLower || c.isDigit || c == '_' || c == '-') = true) :
    (isSpace c = false ∧ c ≠ '=') ∧ c ≠ ',' ∧ c.toLower = c := by
  have hspace : isSpace c = false := by
    by_cases hdash : c = '-'
    · rw [hdash]
      rfl
    · refine isSpace_of_word ?_
      have hword : c.isAlphanum = (c.isUpper || c.isLower || c.isDigit) := rfl
      rw [Bool.or_eq_true, beq_eq_false_iff_ne.mpr hdash] at h
      simp only [hword, Bool.or_eq_true] at h ⊢
      tauto
  have hupper : ¬(c.val ≥ 'A'.val ∧ c.val ≤ 'Z'.val) := by
    rintro ⟨hA, hZ⟩
    have hlow : c.isLower = (decide ('a'.val ≤ c.val) && decide (c.val ≤ 'z'.val)) := rfl
    simp only [hlow, Bool.or_eq_true, beq_iff_eq, Char.isDigit, Bool.and_eq_true,
      decide_eq_true_eq] at h
    rcases h with ((⟨hlower, -⟩ | ⟨-, hdigit⟩) | rfl) | rfl
    · exact absurd (UInt32.le_trans hlower hZ) (by decide)
    · exact absurd (UInt32.le_trans hA hdigit) (by decide)
    · exact absurd hZ (by decide)
    · exact absurd hA (by decide)
  refine ⟨⟨hspace, ?_⟩, ?_, ?_⟩
  · rintro rfl
    cases h
  · rintro rfl
    cases h
  · unfold Char.toLower
    rw [dif_neg hupper]

theorem OptionName.lower (name : OptionName) : name.chars.map Char.toLower = name.chars := by
  refine (List.map_congr_left fun c hc => ?_).trans (List.map_id _)
  exact (plain_char (name.plain c hc)).2.2

theorem readToken_optionToken (option : OptionName × OptionValue) :
    ∃ value, readToken (optionToken option) = some (String.ofList option.1.chars, value) := by
  have hname : ∀ c ∈ option.1.chars, isSpace c = false ∧ c ≠ '=' :=
    fun c hc => (plain_char (option.1.plain c hc)).1
  refine ⟨String.ofList (stripChars option.2.chars), ?_⟩
  unfold optionToken
  rw [readToken_option hname, option.1.lower]

theorem NetCard.mem_tokens {token : List Char} (h : token ∈ card.tokens) :
    token = card.model.chars ∨ ∃ option, token = optionToken option := by
  unfold NetCard.tokens at h
  rcases List.mem_cons.mp h with rfl | h
  · cases hmac : card.mac with
    | none => exact Or.inl rfl
    | some mac => exact Or.inr ⟨(card.model, mac), rfl⟩
  · obtain ⟨option, -, rfl⟩ := List.mem_map.mp h
    exact Or.inr ⟨option, rfl⟩

theorem NetCard.comma_notMem {token : List Char} (h : token ∈ card.tokens) : ',' ∉ token := by
  have hname : ∀ name : OptionName, ',' ∉ name.chars := fun name hmem =>
    (plain_char (name.plain ',' hmem)).2.1 rfl
  rcases card.mem_tokens h with rfl | ⟨option, rfl⟩
  · exact hname card.model
  · unfold optionToken
    rw [List.mem_append, List.mem_cons]
    rintro (hmem | hmem | hmem)
    · exact hname option.1 hmem
    · cases hmem
    · exact option.2.no_comma hmem

theorem NetCard.splitOn_text : card.text.toList.splitOn ',' = card.tokens := by
  unfold NetCard.text
  rw [String.toList_ofList]
  refine List.splitOn_intercalate ',' (fun token htoken => card.comma_notMem htoken) ?_
  exact List.cons_ne_nil _ _

theorem NetCard.text_ne_empty : card.text ≠ "" := by
  intro hempty
  have hsplit := card.splitOn_text
  rw [hempty, String.toList_empty, List.splitOn_nil] at hsplit
  have hnil : [] ∈ card.tokens := hsplit ▸ List.mem_singleton_self []
  rcases card.mem_tokens hnil with hmodel | ⟨option, hoption⟩
  · exact card.model.ne_nil hmodel.symm
  · unfold optionToken at hoption
    simp at hoption

/-- On a card the bridge stands at the beginning of its token. -/
theorem NetCard.prefix_of_bridge {token : List Char} (h : token ∈ card.tokens) {value : String}
    (hread : readToken token = some ("bridge", value)) : "bridge=".toList <+: token := by
  rcases card.mem_tokens h with rfl | ⟨option, rfl⟩
  · have hnone : '=' ∉ card.model.chars := fun hmem =>
      (plain_char (card.model.plain '=' hmem)).1.2 rfl
    rw [readToken_eq_none hnone] at hread
    cases hread
  · obtain ⟨value', hoption⟩ := readToken_optionToken option
    rw [hoption] at hread
    have hname : option.1.chars = "bridge".toList := by
      rw [← (Prod.mk.inj (Option.some.inj hread)).1, String.toList_ofList]
    refine ⟨option.2.chars, ?_⟩
    unfold optionToken
    rw [hname]
    simp

end Card

/-- `configure_vm` gives the first card of a machine a new bridge and leaves all else that the
panel reads of it. -/
theorem networkParam_keeps_card {ρ : Type} (asFloat : String → Option ρ) (key : String)
    (card : NetCard) (bridge : String) (hne : bridge ≠ "")
    (hplain : ∀ c ∈ bridge.toList, c ≠ ',' ∧ isSpace c = false) :
    ∃ written, networkParam (some card.text) (some bridge) = some written ∧
      parseNetString asFloat key written =
        { parseNetString asFloat key card.text with
          bridge := some bridge
          raw := written } := by
  have htruthy : truthy (some bridge) = true := decide_eq_true hne
  refine ⟨net0Value (some card.text) bridge, if_pos htruthy, ?_⟩
  refine parseNetString_net0Value asFloat key card.text_ne_empty hne hplain ?_
  intro token htoken value hread
  rw [card.splitOn_text] at htoken
  exact card.prefix_of_bridge htoken hread

/-- A card with a tag and an option whose name has the bridge in it. -/
def taggedCard : NetCard where
  model := ⟨['v', 'i', 'r', 't', 'i', 'o'], by simp, by simp⟩
  mac := some ⟨['a', 'a', ':', '0', '1'], by simp⟩
  options :=
    [(⟨['m', 'y', '_', 'b', 'r', 'i', 'd', 'g', 'e'], by simp, by simp⟩, ⟨['1'], by simp⟩),
      (⟨['b', 'r', 'i', 'd', 'g', 'e'], by simp, by simp⟩, ⟨['v', 'm', 'b', 'r', '0'], by simp⟩),
      (⟨['t', 'a', 'g'], by simp, by simp⟩, ⟨['5'], by simp⟩)]

example : taggedCard.text = "virtio=aa:01,my_bridge=1,bridge=vmbr0,tag=5" := by decide

theorem networkParam_keeps_card_tagged :
    ∃ written, networkParam (some taggedCard.text) (some "vmbr1") = some written ∧
      parseNetString (fun _ => (none : Option Nat)) "net0" written =
        { parseNetString (fun _ => none) "net0" taggedCard.text with
          bridge := some "vmbr1"
          raw := written } :=
  networkParam_keeps_card (fun _ => none) "net0" taggedCard "vmbr1" (by simp) (by simp [isSpace])

end PveManager.Deploy
