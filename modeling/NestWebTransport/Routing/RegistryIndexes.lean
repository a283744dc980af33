import NestWebTransport.Foundation.OrderedMap
import NestWebTransport.Routing.GatewayRegistry
import Mathlib.Data.Finset.Insert
import Mathlib.Data.List.DropRight

/-! The three indexes of the gateway registry, and the registrations they stand for. -/
namespace NestWebTransport

section GatewayPath

-- `parse` answers the pathname the platform's URL parser finds, `none` where it throws.
variable (parse : String → Option String)

def stripTrailingSlashes (pathname : String) : String :=
  String.ofList (pathname.toList.rdropWhile (· == '/'))

def normalizeGatewayPath (path : String) : String :=
  let pathname := (parse path).getD path
  let pathname := if pathname.startsWith "/" then pathname else "/" ++ pathname
  if pathname.length > 1 then stripTrailingSlashes pathname else pathname

end GatewayPath

structure RegistryIndexes where
  handlers : OrderedMap String (List CompiledWebTransportHandler)
  paths : Finset String
  handlerKinds : Finset String

namespace RegistryIndexes

variable (parse : String → Option String) (r : RegistryIndexes)
  (path : String) (kind : WebTransportHandlerKind) (route : Option String)
  (handler : CompiledWebTransportHandler)

def registryKey : String :=
  normalizeGatewayPath parse path ++ "\u0000" ++ kind.text ++ "\u0000" ++ route.getD ""

def handlerKindKey : String := normalizeGatewayPath parse path ++ "\u0000" ++ kind.text

def new : RegistryIndexes := ⟨.empty, ∅, ∅⟩

def clear (_ : RegistryIndexes) : RegistryIndexes := ⟨.empty, ∅, ∅⟩

def register : RegistryIndexes :=
  let paths := insert (normalizeGatewayPath parse handler.gatewayPath) r.paths
  let handlerKinds :=
    insert (handlerKindKey parse handler.gatewayPath handler.kind) r.handlerKinds
  let key := registryKey parse handler.gatewayPath handler.kind handler.route
  match r.handlers.get key with
  | none => ⟨r.handlers.set key [handler], paths, handlerKinds⟩
  | some handlers => ⟨r.handlers.set key (handlers ++ [handler]), paths, handlerKinds⟩

def find : List CompiledWebTransportHandler :=
  let normalizedPath := normalizeGatewayPath parse path
  let exact :=
    if route = none ∨ route = some "" then none
    else r.handlers.get (registryKey parse normalizedPath kind route)
  let fallback := r.handlers.get (registryKey parse normalizedPath kind none)
  match exact, fallback with
  | none, none => []
  | none, some fallback => fallback
  | some exact, none => exact
  | some exact, some fallback => exact ++ fallback

def size : Nat := r.handlers.values.foldl (fun count handlers => count + handlers.length) 0

def list : List CompiledWebTransportHandler := r.handlers.values.flatten

def hasPath : Bool := decide (normalizeGatewayPath parse path ∈ r.paths)

def hasHandlers : Bool := decide (handlerKindKey parse path kind ∈ r.handlerKinds)

end RegistryIndexes

/-- What changes a registry. -/
inductive RegistryCall
  | register (handler : CompiledWebTransportHandler)
  | clear

def RegistryIndexes.apply (parse : String → Option String) (r : RegistryIndexes) :
    RegistryCall → RegistryIndexes
  | .register handler => r.register parse handler
  | .clear => r.clear

/-- The registrations that are left: those since the last `clear`, in their order. -/
def recordCall (handlers : List CompiledWebTransportHandler) :
    RegistryCall → List CompiledWebTransportHandler
  | .register handler => handlers ++ [handler]
  | .clear => []

def registrations (calls : List RegistryCall) : List CompiledWebTransportHandler :=
  calls.foldl recordCall []

def RegistryIndexes.after (parse : String → Option String) (calls : List RegistryCall) :
    RegistryIndexes :=
  calls.foldl (RegistryIndexes.apply parse) RegistryIndexes.new

/-- The registry the runtime consults, with the registrations `l`. -/
def registryOf (parse : String → Option String) (l : List CompiledWebTransportHandler) :
    GatewayRegistry :=
  ⟨normalizeGatewayPath parse, l⟩

namespace RegistryIndexes

variable {parse : String → Option String} {r : RegistryIndexes}
  {l : List CompiledWebTransportHandler} {calls : List RegistryCall}
  {path : String} {kind : WebTransportHandlerKind} {route : Option String}

/-- The three indexes agree on the registrations `l`. -/
structure Indexes (parse : String → Option String) (r : RegistryIndexes)
    (l : List CompiledWebTransportHandler) : Prop where
  handlers : r.handlers.Groups (fun h => registryKey parse h.gatewayPath h.kind h.route) l
  paths : ∀ p, p ∈ r.paths ↔ ∃ h ∈ l, normalizeGatewayPath parse h.gatewayPath = p
  kinds : ∀ k, k ∈ r.handlerKinds ↔ ∃ h ∈ l, handlerKindKey parse h.gatewayPath h.kind = k

theorem indexes_new : new.Indexes parse [] :=
  ⟨OrderedMap.groups_empty, by simp [new], by simp [new]⟩

theorem register_handlers (handler : CompiledWebTransportHandler) :
    (r.register parse handler).handlers =
      r.handlers.push (registryKey parse handler.gatewayPath handler.kind handler.route)
        handler := by
  simp only [register, OrderedMap.push]
  split
  · rename_i hkey
    rw [hkey]
  · rename_i handlers hkey
    rw [hkey]

theorem register_paths (handler : CompiledWebTransportHandler) :
    (r.register parse handler).paths =
      insert (normalizeGatewayPath parse handler.gatewayPath) r.paths := by
  simp only [register]
  split <;> rfl

theorem register_kinds (handler : CompiledWebTransportHandler) :
    (r.register parse handler).handlerKinds =
      insert (handlerKindKey parse handler.gatewayPath handler.kind) r.handlerKinds := by
  simp only [register]
  split <;> rfl

theorem Indexes.register (h : r.Indexes parse l) (handler : CompiledWebTransportHandler) :
    (r.register parse handler).Indexes parse (l ++ [handler]) where
  handlers := by
    rw [register_handlers]
    exact h.handlers.push handler
  paths p := by
    rw [register_paths, Finset.mem_insert, h.paths]
    simp only [List.mem_append, List.mem_singleton, or_and_right, exists_or, exists_eq_left]
    rw [or_comm, eq_comm (a := p)]
  kinds k := by
    rw [register_kinds, Finset.mem_insert, h.kinds]
    simp only [List.mem_append, List.mem_singleton, or_and_right, exists_or, exists_eq_left]
    rw [or_comm, eq_comm (a := k)]

theorem Indexes.apply (h : r.Indexes parse l) (call : RegistryCall) :
    (r.apply parse call).Indexes parse (recordCall l call) := by
  cases call with
  | register handler => exact h.register handler
  | clear => exact indexes_new

/-- After any calls the indexes agree on the registrations since the last `clear`. -/
theorem after_indexes (calls : List RegistryCall) :
    (after parse calls).Indexes parse (registrations calls) := by
  have h : ∀ r l, Indexes parse r l →
      (calls.foldl (RegistryIndexes.apply parse) r).Indexes parse (calls.foldl recordCall l) := by
    induction calls with
    | nil => exact fun r l h => h
    | cons call calls ih => exact fun r l h => ih _ _ (h.apply call)
  exact h _ _ indexes_new

/-! ### The registry the runtime consults -/

theorem normalizeGatewayPath_registryOf (parse : String → Option String)
    (l : List CompiledWebTransportHandler) (path : String) :
    (registryOf parse l).normalizeGatewayPath path = normalizeGatewayPath parse path := by
  rw [registryOf]

theorem registryKey_registryOf (parse : String → Option String)
    (l : List CompiledWebTransportHandler) (path : String) (kind : WebTransportHandlerKind)
    (route : Option String) :
    (registryOf parse l).registryKey path kind route = registryKey parse path kind route := by
  rw [GatewayRegistry.registryKey, normalizeGatewayPath_registryOf, registryKey]

/-- The indexes answer as the list of the registrations. -/
theorem Indexes.find_eq (h : r.Indexes parse l) :
    r.find parse path kind route =
      (registryOf parse l).find path kind route := by
  have hbucket : ∀ key, (r.handlers.get key).getD [] =
      (registryOf parse l).bucket key := by
    intro key
    rw [GatewayRegistry.bucket]
    refine (h.handlers.group key).trans (List.filter_congr fun x _ => ?_)
    rw [registryKey_registryOf, beq_eq_decide]
  have hmerge : ∀ exact fallback : Option (List CompiledWebTransportHandler),
      (match exact, fallback with
        | none, none => []
        | none, some fallback => fallback
        | some exact, none => exact
        | some exact, some fallback => exact ++ fallback) =
      exact.getD [] ++ fallback.getD [] := by
    intro exact fallback
    cases exact <;> cases fallback <;> simp
  simp only [find, hmerge, hbucket, GatewayRegistry.find, normalizeGatewayPath_registryOf,
    registryKey_registryOf]
  refine congrArg (· ++ _) ?_
  cases route with
  | none => rfl
  | some name =>
    by_cases hname : name = ""
    · simp [hname]
    · simp only [reduceCtorEq, Option.some.injEq, hname, or_self, if_false, hbucket]

theorem Indexes.hasPath_eq (h : r.Indexes parse l) :
    r.hasPath parse path =
      (registryOf parse l).hasPath path := by
  rw [Bool.eq_iff_iff, hasPath, decide_eq_true_eq, h.paths, GatewayRegistry.hasPath]
  simp [registryOf]

theorem Indexes.hasHandlers_eq (h : r.Indexes parse l) :
    r.hasHandlers parse path kind =
      (registryOf parse l).hasHandlers path kind := by
  rw [Bool.eq_iff_iff, hasHandlers, decide_eq_true_eq, h.kinds, GatewayRegistry.hasHandlers]
  simp [handlerKindKey, GatewayRegistry.handlerKindKey, registryOf]

theorem Indexes.size_eq (h : r.Indexes parse l) : r.size = l.length := by
  have hfold : ∀ (groups : List (List CompiledWebTransportHandler)) (n : Nat),
      groups.foldl (fun count handlers => count + handlers.length) n =
        n + groups.flatten.length := by
    intro groups
    induction groups with
    | nil => simp
    | cons group groups ih =>
      intro n
      rw [List.foldl_cons, ih, List.flatten_cons, List.length_append]
      omega
  rw [size, hfold, h.handlers.perm.length_eq, Nat.zero_add]

end RegistryIndexes

/-! ### Keys -/

theorem WebTransportHandlerKind.text_nul_free (kind : WebTransportHandlerKind) :
    '\u0000' ∉ kind.text.toList := by
  cases kind <;> decide

theorem WebTransportHandlerKind.text_injective {k k' : WebTransportHandlerKind}
    (h : k.text = k'.text) : k = k' := by
  revert h
  cases k <;> cases k' <;> decide

/-- A path that `normalizeGatewayPath` leaves alone and that holds no NUL. -/
structure CanonicalPath (parse : String → Option String) (path : String) : Prop where
  fixed : normalizeGatewayPath parse path = path
  nul_free : '\u0000' ∉ path.toList

theorem CanonicalPath.normalized {parse : String → Option String} {path : String}
    (h : CanonicalPath parse path) (l : List CompiledWebTransportHandler) :
    (registryOf parse l).normalizeGatewayPath path = path := by
  rw [RegistryIndexes.normalizeGatewayPath_registryOf, h.fixed]

theorem CanonicalPath.normalized_nul_free {parse : String → Option String} {path : String}
    (h : CanonicalPath parse path) (l : List CompiledWebTransportHandler) :
    '\u0000' ∉ ((registryOf parse l).normalizeGatewayPath path).toList := by
  rw [h.normalized]
  exact h.nul_free

/-- Text up to the first separator determines how a joined text splits. -/
theorem append_separator_inj {α : Type*} {x : α} {a b c d : List α} (ha : x ∉ a) (hc : x ∉ c)
    (h : a ++ x :: b = c ++ x :: d) : a = c ∧ b = d := by
  induction a generalizing c with
  | nil =>
    cases c with
    | nil => exact ⟨rfl, (List.cons.inj h).2⟩
    | cons y c => exact absurd List.mem_cons_self ((List.cons.inj h).1 ▸ hc)
  | cons y a ih =>
    cases c with
    | nil => exact absurd List.mem_cons_self ((List.cons.inj h).1 ▸ ha)
    | cons z c =>
      obtain ⟨hhead, htail⟩ := List.cons.inj h
      have hrest := ih (fun hx => ha (List.mem_cons_of_mem _ hx))
        (fun hx => hc (List.mem_cons_of_mem _ hx)) htail
      exact ⟨by rw [hhead, hrest.1], hrest.2⟩

theorem append_nul_inj {a b c d : String} (ha : '\u0000' ∉ a.toList) (hc : '\u0000' ∉ c.toList) :
    a ++ "\u0000" ++ b = c ++ "\u0000" ++ d ↔ a = c ∧ b = d := by
  constructor
  · intro h
    have hl := congrArg String.toList h
    have hsep : "\u0000".toList = ['\u0000'] := by decide
    simp only [String.toList_append, List.append_assoc, hsep, List.singleton_append] at hl
    obtain ⟨hfirst, hrest⟩ := append_separator_inj ha hc hl
    exact ⟨String.toList_inj.mp hfirst, String.toList_inj.mp hrest⟩
  · rintro ⟨rfl, rfl⟩
    rfl

namespace GatewayRegistry

variable {r : GatewayRegistry} {p p' : String} {k k' : WebTransportHandlerKind}
  {route route' : Option String}

/-- Both keys tell canonical paths and kinds apart; the route is what follows the second NUL. -/
theorem handlerKindKey_inj (hp : '\u0000' ∉ (r.normalizeGatewayPath p).toList)
    (hp' : '\u0000' ∉ (r.normalizeGatewayPath p').toList) :
    r.handlerKindKey p k = r.handlerKindKey p' k' ↔
      r.normalizeGatewayPath p = r.normalizeGatewayPath p' ∧ k = k' := by
  rw [handlerKindKey, handlerKindKey, append_nul_inj hp hp']
  exact and_congr_right fun _ =>
    ⟨WebTransportHandlerKind.text_injective, congrArg WebTransportHandlerKind.text⟩

/-- Keys of paths without a NUL tell the path, the kind and the route apart, but not a missing route
from an empty one. -/
theorem registryKey_inj (hp : '\u0000' ∉ (r.normalizeGatewayPath p).toList)
    (hp' : '\u0000' ∉ (r.normalizeGatewayPath p').toList) :
    r.registryKey p k route = r.registryKey p' k' route' ↔
      (r.normalizeGatewayPath p = r.normalizeGatewayPath p' ∧ k = k') ∧
        route.getD "" = route'.getD "" := by
  have hassoc : ∀ (q : String) (j : WebTransportHandlerKind) (name : Option String),
      r.registryKey q j name =
        r.normalizeGatewayPath q ++ "\u0000" ++ (j.text ++ "\u0000" ++ name.getD "") := by
    intro q j name
    simp only [registryKey, String.append_assoc]
  rw [hassoc, hassoc, append_nul_inj hp hp', append_nul_inj k.text_nul_free k'.text_nul_free,
    and_assoc]
  refine and_congr_right fun _ => and_congr_left' ?_
  exact ⟨WebTransportHandlerKind.text_injective, congrArg WebTransportHandlerKind.text⟩

end GatewayRegistry

/-! ### What a lookup answers -/

/-- The handlers of exactly this route, then those of no route. -/
def lookup (l : List CompiledWebTransportHandler) (path : String) (kind : WebTransportHandlerKind)
    (route : Option String) : List CompiledWebTransportHandler :=
  l.filter (fun h => h.gatewayPath = path ∧ h.kind = kind ∧
      route ≠ none ∧ route ≠ some "" ∧ h.route = route) ++
    l.filter (fun h => h.gatewayPath = path ∧ h.kind = kind ∧ h.route = none)

/-- What the decorators see to: a canonical path, and a route that is absent or not empty. -/
structure CompiledWebTransportHandler.Routable (parse : String → Option String)
    (h : CompiledWebTransportHandler) : Prop where
  path : CanonicalPath parse h.gatewayPath
  route : h.route ≠ some ""

namespace GatewayRegistry

variable {parse : String → Option String} {l : List CompiledWebTransportHandler} {path : String}
  {kind : WebTransportHandlerKind} {route : Option String}

/-- A bucket holds the registrations of its path and kind whose route reads the same. -/
theorem bucket_eq (hpath : CanonicalPath parse path) (hl : ∀ h ∈ l, h.Routable parse) :
    (registryOf parse l).bucket
        ((registryOf parse l).registryKey path kind route) =
      l.filter fun h => h.gatewayPath = path ∧ h.kind = kind ∧ h.route.getD "" = route.getD "" := by
  refine List.filter_congr fun h hh => ?_
  have hr := (hl h hh).path
  rw [beq_eq_decide]
  refine decide_eq_decide.mpr ?_
  have hkeys : (registryOf parse l).registryKey h.gatewayPath h.kind h.route =
      (registryOf parse l).registryKey path kind route ↔ _ :=
    registryKey_inj (hr.normalized_nul_free l) (hpath.normalized_nul_free l)
  rw [hr.normalized, hpath.normalized, and_assoc] at hkeys
  exact hkeys

/-- The indexes find what a search of the registrations finds. -/
theorem find_eq_lookup (hpath : CanonicalPath parse path) (hl : ∀ h ∈ l, h.Routable parse) :
    (registryOf parse l).find path kind route =
      lookup l path kind route := by
  have hexact : ∀ name, name ≠ "" →
      (registryOf parse l).bucket
          ((registryOf parse l).registryKey path kind (some name)) =
        l.filter fun h => h.gatewayPath = path ∧ h.kind = kind ∧ h.route = some name := by
    intro name hname
    rw [bucket_eq hpath hl]
    refine List.filter_congr fun h _ => decide_eq_decide.mpr ?_
    refine and_congr_right fun _ => and_congr_right fun _ => ?_
    cases h.route with
    | none => simpa using fun he : name = "" => hname he
    | some route => simp
  have hfallback : (registryOf parse l).bucket
        ((registryOf parse l).registryKey path kind none) =
      l.filter fun h => h.gatewayPath = path ∧ h.kind = kind ∧ h.route = none := by
    rw [bucket_eq hpath hl]
    refine List.filter_congr fun h hh => decide_eq_decide.mpr ?_
    refine and_congr_right fun _ => and_congr_right fun _ => ?_
    have hroute := (hl h hh).route
    cases hr : h.route with
    | none => simp
    | some route => simpa [hr] using hroute
  simp only [find, hpath.normalized, hfallback, lookup]
  congr 1
  cases route with
  | none => simp
  | some name =>
    by_cases hname : name = ""
    · simp [hname]
    · simp [hname, hexact name hname]

theorem hasPath_iff (hpath : CanonicalPath parse path) (hl : ∀ h ∈ l, h.Routable parse) :
    (registryOf parse l).hasPath path = true ↔
      ∃ h ∈ l, h.gatewayPath = path := by
  simp only [hasPath, hpath.normalized, List.contains_iff_mem, List.mem_map]
  exact exists_congr fun h => and_congr_right fun hh => by rw [(hl h hh).path.normalized]

theorem hasHandlers_iff (hpath : CanonicalPath parse path) (hl : ∀ h ∈ l, h.Routable parse) :
    (registryOf parse l).hasHandlers path kind = true ↔
      ∃ h ∈ l, h.gatewayPath = path ∧ h.kind = kind := by
  simp only [hasHandlers, List.contains_iff_mem, List.mem_map]
  refine exists_congr fun h => and_congr_right fun hh => ?_
  have hr := (hl h hh).path
  rw [handlerKindKey_inj (hr.normalized_nul_free l) (hpath.normalized_nul_free l),
    hr.normalized, hpath.normalized]

end GatewayRegistry

/-- No registration answers a lookup twice: named and unnamed handlers are different ones. -/
theorem lookup_subperm (l : List CompiledWebTransportHandler) (path : String)
    (kind : WebTransportHandlerKind) (route : Option String) :
    (lookup l path kind route).Subperm l := by
  have hnamed : (l.filter fun h => decide (h.gatewayPath = path ∧ h.kind = kind ∧
      route ≠ none ∧ route ≠ some "" ∧ h.route = route)).Sublist
      (l.filter fun h => decide (h.route ≠ none)) := by
    refine List.monotone_filter_right _ fun h hh => ?_
    have hh := of_decide_eq_true hh
    exact decide_eq_true (hh.2.2.2.2 ▸ hh.2.2.1)
  have hunnamed : (l.filter fun h => decide (h.gatewayPath = path ∧ h.kind = kind ∧
      h.route = none)).Sublist (l.filter fun h => !decide (h.route ≠ none)) := by
    refine List.monotone_filter_right _ fun h hh => ?_
    have hh := of_decide_eq_true hh
    simp [hh.2.2]
  exact ((hnamed.append hunnamed).subperm).trans (List.filter_append_perm _ l).subperm

namespace RegistryIndexes

/-- After any calls, every query is answered from the registrations since the last `clear`. -/
theorem answers_registrations (parse : String → Option String) (calls : List RegistryCall)
    (path : String) (kind : WebTransportHandlerKind) (route : Option String)
    (hpath : CanonicalPath parse path) (hl : ∀ h ∈ registrations calls, h.Routable parse) :
    (after parse calls).find parse path kind route =
        lookup (registrations calls) path kind route ∧
      ((after parse calls).find parse path kind route).Subperm (registrations calls) ∧
      ((after parse calls).hasPath parse path = true ↔
        ∃ h ∈ registrations calls, h.gatewayPath = path) ∧
      ((after parse calls).hasHandlers parse path kind = true ↔
        ∃ h ∈ registrations calls, h.gatewayPath = path ∧ h.kind = kind) ∧
      (after parse calls).list.Perm (registrations calls) ∧
      (after parse calls).size = (after parse calls).list.length := by
  have h : (after parse calls).Indexes parse (registrations calls) := after_indexes calls
  have hfind : (after parse calls).find parse path kind route =
      lookup (registrations calls) path kind route :=
    h.find_eq.trans (GatewayRegistry.find_eq_lookup hpath hl)
  refine ⟨hfind, ?_, ?_, ?_, h.handlers.perm, ?_⟩
  · rw [hfind]
    exact lookup_subperm _ _ _ _
  · rw [h.hasPath_eq]
    exact GatewayRegistry.hasPath_iff hpath hl
  · rw [h.hasHandlers_eq]
    exact GatewayRegistry.hasHandlers_iff hpath hl
  · rw [h.size_eq]
    exact h.handlers.perm.length_eq.symm

def chatHandler (route : Option String) : CompiledWebTransportHandler :=
  ⟨"/chat", .datagram, route, true, [], [], [], []⟩

/-- A named route and the fallback, registered after a `clear` in the other order. -/
def chatCalls : List RegistryCall :=
  [.register (chatHandler (some "position")), .clear, .register (chatHandler none),
    .register (chatHandler (some "typing"))]

theorem answers_registrations_chat :
    (after some chatCalls).find some "/chat" .datagram (some "typing") =
      [chatHandler (some "typing"), chatHandler none] := by
  have hchat : CanonicalPath some "/chat" := ⟨by decide +kernel, by decide⟩
  have hroutable : ∀ h ∈ registrations chatCalls, h.Routable some := by
    intro h hh
    have hcases : h = chatHandler none ∨ h = chatHandler (some "typing") := by
      simpa [registrations, chatCalls, recordCall] using hh
    rcases hcases with rfl | rfl
    · exact ⟨hchat, by decide⟩
    · exact ⟨hchat, by decide⟩
  exact (answers_registrations some chatCalls "/chat" .datagram (some "typing") hchat
    hroutable).1.trans (by decide)

end RegistryIndexes

end NestWebTransport
