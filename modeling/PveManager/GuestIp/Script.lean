import PveManager.Core.Grep
import PveManager.Core.KeyedTable
import Mathlib.Data.List.Infix

/-!
# The script that synchronises alias addresses

`sync_aliases.sh` runs inside a guest. It brings the extra addresses of one interface to
the requested list, remembers the list in a state file, and writes it to the first
network stack it recognises. The model keeps what the script reads: the addresses that
`ip addr show` prints, its state files, the network files and NetworkManager's
connections.
-/

namespace PveManager.GuestIp

open PveManager.Core

/-! ### Addresses -/

structure IPv4 where
  a : Fin 256
  b : Fin 256
  c : Fin 256
  d : Fin 256
  deriving DecidableEq

def IPv4.text (ip : IPv4) : List Char :=
  Nat.toDigits 10 ip.a ++ '.' :: Nat.toDigits 10 ip.b ++ '.' :: Nat.toDigits 10 ip.c ++
    '.' :: Nat.toDigits 10 ip.d

/-- An address with the length of its prefix. -/
structure Cidr where
  ip : IPv4
  plen : Fin 33
  deriving DecidableEq

def Cidr.text (a : Cidr) : String :=
  String.ofList (a.ip.text ++ '/' :: Nat.toDigits 10 a.plen)

/-- An address of an interface as the kernel keeps it. -/
structure Entry where
  cidr : Cidr
  peer : Option IPv4 := none
  brd : Option IPv4 := none
  /-- The scope, the flags and the label. -/
  rest : String
  lifetime : String := "valid_lft forever preferred_lft forever"
  /-- The script added it. -/
  ours : Bool := false
  deriving DecidableEq

/-- A network device. -/
structure Interface where
  name : String
  header : String
  entries : List Entry
  /-- The connection that NetworkManager has active on it. -/
  connection : Option String := none
  deriving DecidableEq

/-- What `ip addr show` prints for an address. -/
def Entry.lines (e : Entry) : List (List Char) :=
  ["    inet ".toList ++ (e.cidr.ip.text ++
      ((e.peer.elim [] fun p => " peer ".toList ++ p.text) ++ '/' ::
        (Nat.toDigits 10 e.cidr.plen ++ ((e.brd.elim [] fun b => " brd ".toList ++ b.text) ++
          ' ' :: e.rest.toList)))),
    "       ".toList ++ e.lifetime.toList]

/-- `ip -4 addr show dev`. -/
def Interface.addrShow (link : Interface) : List (List Char) :=
  link.header.toList :: link.entries.flatMap Entry.lines

/-- `ip -4 addr show dev "$IFACE" | grep -qw "$addr"`. -/
def Interface.shows (link : Interface) (ip : IPv4) : Bool :=
  link.addrShow.any (Grep.hasWord ip.text)

/-- The address is assigned to the interface. -/
def Interface.Has (link : Interface) (ip : IPv4) : Prop := ∃ e ∈ link.entries, e.cidr.ip = ip

/-- The commands that fail in a run for other reasons than the state of the interface. -/
structure Refusals where
  add : Cidr → Bool
  del : Cidr → Bool

/-- The interface with one more address. -/
def Interface.with (link : Interface) (a : Cidr) : Interface :=
  { link with entries := link.entries ++
      [{ cidr := a, rest := "scope global " ++ link.name, ours := true }] }

/-- `ip addr add`, which refuses an address that is there with the same prefix. -/
def ipAddrAdd (w : Refusals) (link : Interface) (a : Cidr) : Option Interface :=
  if link.entries.any (fun e => decide (e.cidr = a)) || w.add a then none else some (link.with a)

/-- `ip addr del`, whose failure the script ignores. -/
def ipAddrDel (w : Refusals) (link : Interface) (a : Cidr) : Interface :=
  if w.del a then link else { link with entries := link.entries.filter fun e => decide (e.cidr ≠ a) }

/-! ### Files -/

/-- The files that the script writes or reads. -/
inductive Path
  /-- `/etc/network/interfaces`. -/
  | interfaces
  /-- `/etc/network/interfaces.d/pvemanager-aliases-$IFACE`. -/
  | ifup (iface : String)
  /-- `/etc/netplan/99-pvemanager-aliases.yaml`. -/
  | netplan
  /-- `/etc/sysconfig/network-scripts/ifcfg-*`. -/
  | ifcfg (name : String)
  /-- `/usr/local/sbin/pvemanager-aliases`. -/
  | helper
  /-- `/etc/systemd/system/pvemanager-aliases.service`. -/
  | unit
  deriving DecidableEq

structure File where
  path : Path
  lines : List String
  /-- The script wrote it. -/
  ours : Bool
  deriving DecidableEq

/-- `/var/lib/pvemanager/aliases.$IFACE`. -/
structure StateFile where
  iface : String
  addresses : List Cidr
  deriving DecidableEq

/-- A connection profile of NetworkManager. -/
structure Connection where
  name : String
  addresses : List Cidr
  deriving DecidableEq

abbrev Files := KeyedTable File.path

/-- A guest as the script finds it. -/
structure Guest where
  links : KeyedTable Interface.name
  states : KeyedTable StateFile.iface
  files : Files
  connections : KeyedTable Connection.name
  /-- The commands that are installed. -/
  ifup : Bool
  nmcli : Bool
  systemctl : Bool
  /-- The directories that are there. -/
  interfacesDir : Bool
  netplanDir : Bool
  sysconfigDir : Bool
  systemdDir : Bool
  /-- The unit is enabled. -/
  enabled : Bool
  /-- Every address that the script ever added, with its interface. -/
  added : List (String × Cidr)

/-- `PREV`. -/
def Guest.prev (g : Guest) (iface : String) : List Cidr :=
  ((g.states.find? iface).map StateFile.addresses).getD []

/-! ### Addresses of the interface -/

/-- The first loop: addresses of the state file that are not asked for any more. -/
def removeDropped (w : Refusals) (prev addresses : List Cidr) (link : Interface) : Interface :=
  prev.foldl (fun link old => if old ∈ addresses then link else ipAddrDel w link old) link

/-- The second loop: it stops at the first address that cannot be added. -/
def addMissing (w : Refusals) : List Cidr → Interface → Option Cidr × Interface
  | [], link => (none, link)
  | a :: as, link =>
    if link.shows a.ip then addMissing w as link
    else
      match ipAddrAdd w link a with
      | none => (some a, link)
      | some link' => addMissing w as link'

/-- Both loops. A device that is not there shows nothing and takes no address. -/
def syncLink (w : Refusals) (g : Guest) (iface : String) (addresses : List Cidr) :
    Option Cidr × Guest :=
  match g.links.find? iface with
  | none => (addresses.head?, g)
  | some link =>
    let (failed, link') := addMissing w addresses (removeDropped w (g.prev iface) addresses link)
    (failed, { g with
      links := g.links.save link'
      added := g.added ++
        ((link'.entries.filter Entry.ours).map fun e => (iface, e.cidr)) })

/-! ### Network stacks -/

def marker : String := "# managed by PVEmanager"

def header : String := marker ++ " - do not edit by hand"

/-- `"$IFACE:$n"`. -/
def aliasName (iface : String) (n : Nat) : String := iface ++ ":" ++ toString n

/-- The requested addresses with their numbers. -/
def numbered (addresses : List Cidr) : List (Cidr × Nat) := addresses.zipIdx 1

/-- `grep -qE '^[[:space:]]*(source|source-directory)'`. -/
def isSourceLine (l : String) : Bool :=
  "source".toList.isPrefixOf (l.toList.dropWhile Char.isWhitespace)

/-- The interfaces file with a source line. -/
def sourced (files : Files) : Files :=
  match files.find? .interfaces with
  | none => files
  | some f =>
    if f.lines.any isSourceLine then files
    else files.save { f with lines := f.lines ++ ["source /etc/network/interfaces.d/*"] }

def ifupLines (iface : String) (addresses : List Cidr) : List String :=
  header :: (numbered addresses).flatMap fun (a, n) =>
    ["auto " ++ aliasName iface n, "iface " ++ aliasName iface n ++ " inet static",
      "    address " ++ a.text]

def persistIfupdown (files : Files) (iface : String) (addresses : List Cidr) : Files :=
  if addresses = [] then (sourced files).erase (.ifup iface)
  else (sourced files).save ⟨.ifup iface, ifupLines iface addresses, true⟩

def netplanLines (iface : String) (addresses : List Cidr) : List String :=
  [header, "network:", "  version: 2", "  ethernets:", "    " ++ iface ++ ":", "      addresses:"] ++
    addresses.map fun a => "        - " ++ a.text

def persistNetplan (files : Files) (iface : String) (addresses : List Cidr) : Files :=
  if addresses = [] then files.erase .netplan
  else files.save ⟨.netplan, netplanLines iface addresses, true⟩

/-- `nmcli con mod` for every address that was listed and every one that is asked for. -/
def editConnection (prev addresses : List Cidr) (current : List Cidr) : List Cidr :=
  addresses.foldl (fun l a => if a ∈ l then l else l ++ [a]) (current.filter fun a => decide (a ∉ prev))

def persistConnection (connections : KeyedTable Connection.name) (con : String)
    (prev addresses : List Cidr) : KeyedTable Connection.name :=
  connections.mapRows
    (fun c => if c.name = con then { c with addresses := editConnection prev addresses c.addresses }
      else c)
    fun c => by
      split
      · rfl
      · rfl

/-- `head -n 1 "$f" | grep -q "$MARKER"`. -/
def File.marked (f : File) : Bool :=
  f.lines.head?.any fun l => decide (marker.toList <:+: l.toList)

/-- The pattern `ifcfg-$IFACE:*`. -/
def Path.isAliasOf (iface : String) : Path → Bool
  | .ifcfg name => (iface ++ ":").toList.isPrefixOf name.toList
  | _ => false

def ifcfgLines (iface : String) (a : Cidr) (n : Nat) : List String :=
  [header, "DEVICE=" ++ aliasName iface n, "NAME=" ++ aliasName iface n, "ONPARENT=yes",
    "ONBOOT=yes", "BOOTPROTO=none", "IPADDR=" ++ String.ofList a.ip.text,
    "PREFIX=" ++ toString a.plen.val]

def ifcfgFile (iface : String) (a : Cidr) (n : Nat) : File :=
  ⟨.ifcfg (aliasName iface n), ifcfgLines iface a n, true⟩

/-- The earlier alias files go, those without the marker apart, and the new ones are
written. -/
def persistSysconfig (files : Files) (iface : String) (addresses : List Cidr) : Files :=
  (numbered addresses).foldl (fun files (a, n) => files.save (ifcfgFile iface a n))
    (files.filter fun f => !(f.path.isAliasOf iface && f.marked))

inductive Stack
  | none
  | ifupdown
  | netplan
  | nm (con : String)
  | sysconfig
  deriving DecidableEq

/-- `nmcli -g GENERAL.CONNECTION device show`. -/
def Guest.connectionOf (g : Guest) (iface : String) : Option String :=
  ((g.links.find? iface).bind Interface.connection).filter fun con => decide (con ≠ "")

/-- The first stack that is recognised. -/
def Guest.stack (g : Guest) (iface : String) : Stack :=
  if g.interfacesDir ∧ (g.files.find? .interfaces).isSome ∧ g.ifup then .ifupdown
  else if g.netplanDir then .netplan
  else
    match if g.nmcli then g.connectionOf iface else none with
    | some con => .nm con
    | none => if g.sysconfigDir then .sysconfig else .none

def persistNative (g : Guest) (iface : String) (prev addresses : List Cidr) : Guest :=
  match g.stack iface with
  | .none => g
  | .ifupdown => { g with files := persistIfupdown g.files iface addresses }
  | .netplan => { g with files := persistNetplan g.files iface addresses }
  | .nm con => { g with connections := persistConnection g.connections con prev addresses }
  | .sysconfig => { g with files := persistSysconfig g.files iface addresses }

/-! ### The unit that restores the addresses -/

def helperLines : List String :=
  ["#!/bin/sh",
    header,
    "# Re-add the alias addresses recorded by PVEmanager for every interface.",
    "for state in /var/lib/pvemanager/aliases.*; do",
    "    [ -f \"$state\" ] || continue",
    "    iface=$\x7bstate##*/aliases.\x7d",
    "    for cidr in $(cat \"$state\"); do",
    "        addr=$\x7bcidr%%/*\x7d",
    "        ip -4 addr show dev \"$iface\" 2>/dev/null | grep -qw \"$addr\" && continue",
    "        ip addr add \"$cidr\" dev \"$iface\" 2>/dev/null || true",
    "    done",
    "done"]

def unitLines : List String :=
  [header, "[Unit]", "Description=PVEmanager extra IP addresses", "After=network-online.target",
    "Wants=network-online.target", "", "[Service]", "Type=oneshot", "RemainAfterExit=yes",
    "ExecStart=/usr/local/sbin/pvemanager-aliases", "", "[Install]", "WantedBy=multi-user.target"]

/-- Anything is left to restore on any interface. -/
def Guest.remaining (g : Guest) : Bool := g.states.rows.any fun s => !s.addresses.isEmpty

def Guest.systemd (g : Guest) : Bool := g.systemctl && g.systemdDir

def persistUnit (g : Guest) : Guest :=
  if g.systemd then
    if g.remaining then
      { g with
        files := (g.files.save ⟨.helper, helperLines, true⟩).save ⟨.unit, unitLines, true⟩
        enabled := true }
    else { g with files := (g.files.erase .unit).erase .helper, enabled := false }
  else g

/-! ### The script -/

def Stack.name : Stack → String
  | .none => "none"
  | .ifupdown => "ifupdown"
  | .netplan => "netplan"
  | .nm _ => "nm"
  | .sysconfig => "sysconfig"

/-- The value of `persist` at the end. -/
def persisted (g : Guest) (stack : Stack) : String :=
  if g.systemd ∧ g.remaining then
    if stack = .none then "systemd" else stack.name ++ "+systemd"
  else stack.name

/-- The guest after the run, the exit code and what the script prints. -/
structure Result where
  guest : Guest
  exit : Nat
  output : List String

def syncAliases (w : Refusals) (g : Guest) (iface : String) (addresses : List Cidr) : Result :=
  if iface = "" then ⟨g, 2, ["missing IFACE"]⟩
  else
    match syncLink w g iface addresses with
    | (some a, g') => ⟨g', 1, ["failed to add " ++ a.text ++ " on " ++ iface]⟩
    | (none, g') =>
      let listed := { g' with states := g'.states.save ⟨iface, addresses⟩ }
      let native := persistNative listed iface (g.prev iface) addresses
      ⟨persistUnit native, 0,
        ["PVEMANAGER_PERSIST=" ++ persisted native (listed.stack iface), "PVEMANAGER_OK=1"]⟩

/-! ### What the panel makes of it -/

inductive ApplyStatus
  | applied
  | runtimeOnly
  | pending
  | failed
  deriving DecidableEq

/-- The status that `sync_interface` records for a script that ran to its end. -/
def Result.status (r : Result) : ApplyStatus :=
  if r.exit ≠ 0 ∨ "PVEMANAGER_OK=1" ∉ r.output then .failed
  else if "PVEMANAGER_PERSIST=none" ∈ r.output then .runtimeOnly
  else .applied

end PveManager.GuestIp
