import Mathlib.Data.List.Infix
import PveManager.Core.Yaml
import PveManager.Models.Records

/-!
# Rewriting a compose file

`_normalize_compose`: what the runtimes of the app sources would add to a compose file is added to it,
and the services that only run there are taken out. Where anything raises, the file is used as it is.
-/

namespace PveManager.Compose

open PveManager.Core PveManager.Core.Yaml

/-- Python's text functions, where they say more than ASCII. -/
structure PyText where
  /-- `str` of a list or a mapping. -/
  repr : Yaml → String
  /-- Whether a character is a digit to `isdigit`, and the value that `int` takes it for. -/
  digit : Char → Option (Option Nat)
  ascii : ∀ c, c.toNat < 128 →
    digit c = if 48 ≤ c.toNat ∧ c.toNat ≤ 57 then some (some (c.toNat - 48)) else none

namespace PyText

variable (py : PyText)

/-- `str`. -/
def str : Yaml → String
  | .null => "None"
  | .bool b => if b then "True" else "False"
  | .int n => toString n
  | .other text => text
  | .str s => s
  | node => py.repr node

/-- `int` of a text of digits, `none` where it raises. -/
def readDigits (digits : List Char) : Option Int :=
  if 4300 < digits.length then none
  else digits.foldl (fun n c => do
    let value ← (py.digit c).join
    pure ((← n) * 10 + (value : Int))) (some 0)

/-- A text of which every character is a digit. -/
def isDigits (chars : List Char) : Bool :=
  !chars.isEmpty && chars.all fun c => (py.digit c).isSome

/-- `_to_int`; an error where `int` raises. -/
def toInt : Yaml → Except Unit (Option Int)
  | .int n => .ok (some n)
  | .str s =>
    if py.isDigits (stripChars s.toList) then
      match py.readDigits (stripChars s.toList) with
      | some n => .ok (some n)
      | none => .error ()
    else .ok none
  | _ => .ok none

end PyText

/-- The text functions for files that are ASCII and keep texts, not lists, where a text is read. -/
def PyText.ofAscii : PyText where
  repr _ := ""
  digit c := if 48 ≤ c.toNat ∧ c.toNat ≤ 57 then some (some (c.toNat - 48)) else none
  ascii _ _ := rfl

/-! ### Variables -/

def isNameStart (c : Char) : Bool :=
  decide (65 ≤ c.toNat ∧ c.toNat ≤ 90 ∨ 97 ≤ c.toNat ∧ c.toNat ≤ 122 ∨ c.toNat = 95)

def isNameChar (c : Char) : Bool := isNameStart c || decide (48 ≤ c.toNat ∧ c.toNat ≤ 57)

/-- A name at the beginning, and what is behind it. -/
def takeName (chars : List Char) : Option (String × List Char) :=
  match chars with
  | c :: _ =>
    if isNameStart c then some (String.ofList (chars.takeWhile isNameChar), chars.dropWhile isNameChar)
    else none
  | [] => none

/-- The default behind a name in braces, and what is behind the brace. -/
def takeDefault : List Char → Option (List Char × List Char)
  | '}' :: rest => some ([], rest)
  | ':' :: '-' :: rest | '-' :: rest =>
    match rest.dropWhile (· ≠ '}') with
    | _ :: behind => some (rest.takeWhile (· ≠ '}'), behind)
    | [] => none
  | _ => none

/-- `_VAR_RE` behind a dollar sign: the name, the default, and what is behind the match. -/
def takeVariable (chars : List Char) : Option (String × List Char × List Char) :=
  match chars with
  | '{' :: rest => do
    let (name, behind) ← takeName rest
    let (default, behind) ← takeDefault behind
    pure (name, default, behind)
  | _ => (takeName chars).map fun p => (p.1, [], p.2)

/-- The variables of a compose run. -/
abbrev Env := List (String × String)

/-- The value of a variable, or its default where it is missing or empty. -/
def substValue (env : Env) (name : String) (default : List Char) : List Char :=
  match (env.lookup name).filter (· ≠ "") with
  | some value => value.toList
  | none => default

/-- The substitution, one match or character at a time. -/
def substChars (env : Env) : Nat → List Char → List Char
  | 0, chars => chars
  | _, [] => []
  | fuel + 1, c :: rest =>
    if c = '$' then
      match takeVariable rest with
      | some (name, default, behind) => substValue env name default ++ substChars env fuel behind
      | none => c :: substChars env fuel rest
    else c :: substChars env fuel rest

/-- `_subst_env`; a match takes at least its dollar sign, so the length is enough. -/
def substEnv (value : String) (env : Env) : String :=
  String.ofList (substChars env value.toList.length value.toList)

/-! ### Main service -/

inductive AppSource
  | runtipi
  | umbrel
  deriving DecidableEq

/-- `_compose_env_get`. -/
def composeEnvGet (py : PyText) (environment : Option Yaml) (key : String) : Option String :=
  match environment with
  | some (.dict items) =>
    match items.lookup key with
    | none | some .null => none
    | some value => some (py.str value)
  | some (.list items) =>
    (items.find? fun item => (key ++ "=").toList.isPrefixOf (py.str item).toList).map fun item =>
      String.ofList ((py.str item).toList.drop (key ++ "=").toList.length)
  | _ => none

/-- `_find_main_service`. -/
def findMainService (services : Items) : Option String :=
  match services.find? fun item =>
      (item.2.get? "x-runtipi").any fun rt => (rt.get? "is_main").any Yaml.truthy with
  | some item => some item.1
  | none =>
    match services with
    | [item] => some item.1
    | _ => none

/-- `_is_umbrel_infra_service`. -/
def isUmbrelInfraService (name : String) : Bool :=
  let low := name.toLower
  decide (low = "app_proxy") || decide (low = "tor") || "_tor".toList.isSuffixOf low.toList ||
    "-tor".toList.isSuffixOf low.toList

/-- An entry that Python cannot hash. -/
def unhashable : Yaml → Bool
  | .list _ | .dict _ => true
  | _ => false

/-- The entry is one of the names. -/
def isNamed (names : List String) : Yaml → Bool
  | .str s => decide (s ∈ names)
  | _ => false

/-- The references of a service without those to the removed ones. -/
def stripDepends (removed : List String) (svc : Items) : Except Unit Items :=
  match svc.lookup "depends_on" with
  | some (.list dep) =>
    if dep.any unhashable then .error ()
    else
      let new := dep.filter fun d => !isNamed removed d
      .ok (if new.isEmpty then dropKeys ["depends_on"] svc else setKey "depends_on" (.list new) svc)
  | some (.dict dep) =>
    let new := dropKeys removed dep
    .ok (if new.isEmpty then dropKeys ["depends_on"] svc else setKey "depends_on" (.dict new) svc)
  | _ => .ok svc

/-- The same for what may be no mapping. -/
def stripService (removed : List String) : Yaml → Except Unit Yaml
  | .dict svc => (stripDepends removed svc).map Yaml.dict
  | svc => .ok svc

/-- `_strip_dangling_depends`. -/
def stripDanglingDepends (removed : List String) : Items → Except Unit Items
  | [] => .ok []
  | (name, svc) :: rest => do
    let svc ← stripService removed svc
    let rest ← stripDanglingDepends removed rest
    pure ((name, svc) :: rest)

/-- The service that the proxy of Umbrel points at. -/
def hostService (services : Items) (host : String) : Option String :=
  (services.find? fun item => decide (item.1 = host) ||
    (host.toList.splitOn '_').any (fun part => decide (String.ofList part = item.1)) ||
      decide (item.1.toList <:+: host.toList)).map Prod.fst

/-- The first service with an image. -/
def imageService (services : Items) : Option String :=
  (services.find? fun item => (item.2.get? "image").any Yaml.truthy).map Prod.fst

/-- `_umbrel_main_service`. -/
def umbrelMainService (services : Items) (appHost : Option String) : Option String :=
  match (appHost.filter (· ≠ "")).bind (hostService services) with
  | some name => some name
  | none =>
    match services with
    | [] => none
    | [item] => some item.1
    | first :: _ => (imageService services).or (some first.1)

/-- The services before the publication, the main one, the port inside of it, and whether anything
has changed. -/
structure Prepared where
  services : Items
  main : Option String
  internal : Option Int
  changed : Bool

/-- The runtime services of Umbrel in a file. -/
def infraServices (services : Items) : List String :=
  (services.map Prod.fst).filter isUmbrelInfraService

/-- A variable of the proxy of Umbrel. -/
def proxyVariable (py : PyText) (services : Items) (key : String) : Option String :=
  let proxy := (services.lookup "app_proxy").bind Yaml.items?
  composeEnvGet py (proxy.bind fun ap => ap.lookup "environment") key

/-- The port that Runtipi declares for the main service. -/
def runtipiPort (services : Items) : Option Yaml := do
  let name ← findMainService services
  let svc ← services.lookup name
  let rt ← svc.get? "x-runtipi"
  rt.get? "internal_port"

/-- `_to_int` of what may be missing. -/
def PyText.toInt? (py : PyText) : Option Yaml → Except Unit (Option Int)
  | some value => py.toInt value
  | none => .ok none

/-- `_prepare_umbrel`. -/
def prepareUmbrel (py : PyText) (services : Items) : Except Unit Prepared := do
  let internal ← py.toInt? ((proxyVariable py services "APP_PORT").map Yaml.str)
  let appHost := proxyVariable py services "APP_HOST"
  let removed := infraServices services
  let kept := dropKeys removed services
  let kept ← if removed.isEmpty then .ok kept else stripDanglingDepends removed kept
  pure ⟨kept, umbrelMainService kept appHost, internal, !removed.isEmpty⟩

/-- `_resolve_main_and_port`. -/
def resolveMainAndPort (py : PyText) (services : Items) : AppSource → Except Unit Prepared
  | .umbrel => prepareUmbrel py services
  | .runtipi => do
    let internal ← py.toInt? (runtipiPort services)
    pure ⟨services, findMainService services, internal, false⟩

/-! ### Networks -/

/-- The networks of a service. -/
def networksOf (py : PyText) (svc : Yaml) : List String :=
  match svc.get? "networks" with
  | some (.list nets) => nets.map py.str
  | some (.dict nets) => nets.map Prod.fst
  | _ => []

/-- The networks of some services. -/
def referencedNetworks (py : PyText) (services : Items) : List String :=
  services.flatMap fun item => networksOf py item.2

/-- The networks that a file declares. -/
def declaredNetworks (items : Items) : Items := ((items.lookup "networks").map Yaml.itemsOf).getD []

/-- An external network. -/
def externalNetwork : Yaml := .dict [("external", .bool true)]

/-- Undeclared networks become external ones. -/
def declareNetworks (top : Items) (missing : List String) : Items :=
  missing.foldl (fun top net => setKey net externalNetwork top) top

/-! ### Ports -/

/-- `host_port` where it is given and not zero. -/
def truePort (port : Option Int) : Option Int := port.filter (· ≠ 0)

/-- The text of the host port in an entry of `ports`. -/
def publishedText (py : PyText) (entry : Yaml) (hostPort : Option Int) : Option String :=
  let env : Env := match truePort hostPort with
    | some port => [("APP_PORT", toString port)]
    | none => []
  match entry with
  | .dict items =>
    match items.lookup "published" with
    | none | some .null => none
    | some published => some (substEnv (py.str published) env)
  | entry =>
    match ((substEnv (py.str entry) env).toList.splitOn ':').reverse with
    | _ :: part :: _ => some (String.ofList part)
    | _ => none

/-- `_published_host_port`. -/
def publishedHostPort (py : PyText) (entry : Yaml) (hostPort : Option Int) :
    Except Unit (Option Int) := py.toInt? ((publishedText py entry hostPort).map Yaml.str)

/-- The host port for a file that publishes none. -/
def choosePort (hostPort : Option Int) (portExplicit : Bool) (internal : Int) : Int :=
  match truePort hostPort with
  | some port => if portExplicit ∨ port ≠ 80 then port else internal
  | none => internal

/-- The services, the published port, and whether a port was added. -/
structure Publication where
  services : Items
  port : Option Int
  changed : Bool

/-- The main service, where it is a mapping. -/
def mainService (services : Items) (main : Option String) : Option (String × Items) :=
  main.bind fun name => ((services.lookup name).bind Yaml.items?).map fun svc => (name, svc)

/-- The publication of the port of the main service. -/
def publishPort (py : PyText) (services : Items) (main : Option String) (internal : Option Int)
    (hostPort : Option Int) (portExplicit : Bool) : Except Unit Publication :=
  match mainService services main with
  | some (name, svc) =>
    let ports := (svc.lookup "ports").getD .null
    match truePort internal with
    | some internal =>
      if ports.truthy = false then
        let published := choosePort hostPort portExplicit internal
        let entry : Yaml := .str (toString published ++ ":" ++ toString internal)
        let svc := setKey "ports" (.list [entry]) svc
        .ok ⟨setKey name (.dict svc) services, some published, true⟩
      else
        match ports with
        | .list (first :: _) =>
          (publishedHostPort py first hostPort).map fun port =>
            ⟨services, some ((truePort port).getD internal), false⟩
        | _ => .ok ⟨services, none, false⟩
    | none =>
      match ports with
      | .list (first :: _) =>
        (publishedHostPort py first hostPort).map fun port => ⟨services, port, false⟩
      | _ => .ok ⟨services, none, false⟩
  | none => .ok ⟨services, none, false⟩

/-! ### The whole rewriting -/

/-- What an install passes to the rewriting beside the file. -/
structure RewriteOptions where
  hostPort : Option Int
  source : AppSource
  portExplicit : Bool

/-- An installation from Runtipi on port 8080. -/
def runtipiOptions : RewriteOptions := ⟨some 8080, .runtipi, false⟩

/-- The port inside of the container: for Umbrel, the one of the catalogue where the file has none. -/
def internalPort (o : RewriteOptions) (internal : Option Int) : Option Int :=
  if o.source = .umbrel ∧ internal = none then (truePort o.hostPort).or internal else internal

/-- A file with its networks declared, where something has changed. -/
def withNetworks (py : PyText) (items services : Items) (changed : Bool) : Items × Bool :=
  let referenced := referencedNetworks py services
  let top := declaredNetworks items
  let missing := referenced.filter fun net => (top.lookup net).isNone
  let changed' := changed || !missing.isEmpty
  if referenced.isEmpty then (items, changed)
  else if changed' then
    (setKey "networks" (.dict (declareNetworks top missing)) items, changed')
  else (items, changed')

/-- The rewriting of a file with services: the new one, whether it has changed, and the port. -/
def rewrite (py : PyText) (o : RewriteOptions) (items services : Items) :
    Except Unit (Items × Bool × Option Int) := do
  let prepared ← resolveMainAndPort py services o.source
  let declared := withNetworks py items prepared.services prepared.changed
  let published ← publishPort py prepared.services prepared.main
    (internalPort o prepared.internal) o.hostPort o.portExplicit
  pure (setKey "services" (.dict published.services) declared.1, declared.2 || published.changed,
    published.port)

/-- A file as it is delivered, and the published port. -/
structure Delivered where
  doc : Yaml
  port : Option Int

/-- `_normalize_compose`. -/
def normalizeCompose (py : PyText) (o : RewriteOptions) (doc : Yaml) : Delivered :=
  match doc.items?, (doc.get? "services").bind Yaml.items? with
  | some items, some services =>
    match rewrite py o items services with
    | .error () => ⟨doc, none⟩
    | .ok (new, changed, port) => if changed then ⟨.dict new, port⟩ else ⟨doc, port⟩
  | _, _ => ⟨doc, none⟩

end PveManager.Compose
