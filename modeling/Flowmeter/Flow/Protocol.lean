/-!
# Protocols

The protocols that a flow is observed for, and `PerProtocol`, one value for each of them.
-/

namespace Flowmeter

/-- A protocol with a plugin of its own. -/
inductive Protocol where
  | vlan
  | mpls
  | icmp
  | quic
  | mqtt
  | http
  deriving DecidableEq, Repr

namespace Protocol

def all : List Protocol :=
  [.vlan, .mpls, .icmp, .quic, .mqtt, .http]

/-- The name that settings and field names go by. -/
def name : Protocol → String
  | .vlan => "vlan"
  | .mpls => "mpls"
  | .icmp => "icmp"
  | .quic => "quic"
  | .mqtt => "mqtt"
  | .http => "http"

/-- The name with a capital. -/
def title : Protocol → String
  | .vlan => "Vlan"
  | .mpls => "Mpls"
  | .icmp => "Icmp"
  | .quic => "Quic"
  | .mqtt => "Mqtt"
  | .http => "Http"

/-- Position in `all`. -/
def index : Protocol → Nat
  | .vlan => 0
  | .mpls => 1
  | .icmp => 2
  | .quic => 3
  | .mqtt => 4
  | .http => 5

def ofName? (name : String) : Option Protocol :=
  all.find? (·.name == name)

def ofIndex? (index : Nat) : Option Protocol :=
  all[index]?

theorem mem_all (p : Protocol) : p ∈ all := by
  cases p <;> decide

theorem nodup_all : all.Nodup := by
  decide

theorem all_getElem?_index (p : Protocol) : all[p.index]? = some p := by
  cases p <;> rfl

end Protocol

/-- One value for each protocol. -/
structure PerProtocol (α : Type) where
  vlan : α
  mpls : α
  icmp : α
  quic : α
  mqtt : α
  http : α
  deriving DecidableEq, Repr

namespace PerProtocol

variable {α : Type}

def replicate (a : α) : PerProtocol α :=
  ⟨a, a, a, a, a, a⟩

def get (t : PerProtocol α) : Protocol → α
  | .vlan => t.vlan
  | .mpls => t.mpls
  | .icmp => t.icmp
  | .quic => t.quic
  | .mqtt => t.mqtt
  | .http => t.http

def set (t : PerProtocol α) (p : Protocol) (a : α) : PerProtocol α :=
  match p with
  | .vlan => { t with vlan := a }
  | .mpls => { t with mpls := a }
  | .icmp => { t with icmp := a }
  | .quic => { t with quic := a }
  | .mqtt => { t with mqtt := a }
  | .http => { t with http := a }

def toList (t : PerProtocol α) : List α :=
  Protocol.all.map t.get

theorem ext_get {s t : PerProtocol α} (h : ∀ p, s.get p = t.get p) : s = t := by
  cases s
  cases t
  simp only [PerProtocol.mk.injEq]
  exact ⟨h .vlan, h .mpls, h .icmp, h .quic, h .mqtt, h .http⟩

@[simp] theorem get_replicate (a : α) (p : Protocol) : (replicate a).get p = a := by
  cases p <;> rfl

@[simp] theorem get_set_self (t : PerProtocol α) (p : Protocol) (a : α) : (t.set p a).get p = a := by
  cases p <;> rfl

theorem get_set_of_ne {p q : Protocol} (t : PerProtocol α) (a : α) (h : q ≠ p) :
    (t.set p a).get q = t.get q := by
  cases p <;> cases q <;> first | rfl | exact absurd rfl h

@[simp] theorem set_get_self (t : PerProtocol α) (p : Protocol) : t.set p (t.get p) = t := by
  cases p <;> rfl

end PerProtocol

end Flowmeter
