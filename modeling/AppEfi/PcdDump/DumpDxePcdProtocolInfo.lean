import AppEfi.Lib.Cursor
import AppEfi.Lib.Memory
import Mathlib.Data.List.Flatten

/-!
# The PCDs of the DXE protocols

DumpDxePcdProtocolInfo goes through the default token space and then through every token space
that GetNextTokenSpace leads to, and in each of them from token to token.  What ends a loop is
an error, the token number zero or the token space NULL.  One PcdInfo serves all the tokens: a
GetInfo that fails leaves in it what the token before put there.
-/

set_option autoImplicit false

namespace AppEfi.PcdDump.Protocol

open AppEfi.Cursor

section Protocols

/-- EFI_PCD_INFO. -/
structure PcdInfo where
  pcdType : Nat
  pcdSize : Nat
  pcdName : Option (List UInt8)
  deriving DecidableEq

structure Getters where
  get8 : Nat → UInt8
  get16 : Nat → UInt16
  get32 : Nat → UInt32
  get64 : Nat → UInt64
  getBool : Nat → Bool
  /-- The address of the data. -/
  getPtr : Nat → Nat

/-- What the four protocols answer; `none` for a token space is NULL. -/
structure Protocols (TokenSpace : Type) where
  pcd : Getters
  /-- GetInfo by the record that it is to fill. -/
  pcdInfo : Nat → PcdInfo → PcdInfo
  piPcd : TokenSpace → Getters
  piPcdInfo : TokenSpace → Nat → PcdInfo → PcdInfo
  /-- Without an answer the status is an error. -/
  getNextToken : Option TokenSpace → Nat → Option Nat
  getNextTokenSpace : Option TokenSpace → Option (Option TokenSpace)

inductive ProtocolName where
  | piPcd | piPcdInfo | pcd | pcdInfo
  deriving DecidableEq

inductive Line (TokenSpace : Type) where
  | missing (protocol : ProtocolName)
  | dxePcdProtocol
  | localTokens
  | exTokens
  | localToken (index : Nat)
  | exToken (index : Nat)
  | tokenNumber (number : Nat)
  | tokenType (text : String)
  | tokenSpace (space : TokenSpace)
  | pcdName (name : List UInt8)
  | data (width value : Nat)
  | boolean (value : Bool)
  | dataSize (size : Nat)
  | dataBytes (bytes : List UInt8)
  deriving DecidableEq

end Protocols

section Dump

variable {TokenSpace : Type}

def getPcdTypeString : Nat → String
  | 0 => "UINT8"
  | 1 => "UINT16"
  | 2 => "UINT32"
  | 3 => "UINT64"
  | 4 => "BOOLEAN"
  | 5 => "POINTER"
  | _ => "<UNKNOWN>"

def Protocols.getters (protocols : Protocols TokenSpace) : Option TokenSpace → Getters
  | none => protocols.pcd
  | some space => protocols.piPcd space

def Protocols.getInfo (protocols : Protocols TokenSpace) :
    Option TokenSpace → Nat → PcdInfo → PcdInfo
  | none => protocols.pcdInfo
  | some space => protocols.piPcdInfo space

/-- The value of a token, read with the getter of its type. -/
def dumpPcdData (memory : Memory) (getters : Getters) (tokenNumber : Nat) (info : PcdInfo) :
    List (Line TokenSpace) :=
  match info.pcdType with
  | 0 => [.data 1 (getters.get8 tokenNumber).toNat]
  | 1 => [.data 2 (getters.get16 tokenNumber).toNat]
  | 2 => [.data 4 (getters.get32 tokenNumber).toNat]
  | 3 => [.data 8 (getters.get64 tokenNumber).toNat]
  | 4 => [.boolean (getters.getBool tokenNumber)]
  | 5 => [.dataSize info.pcdSize,
      .dataBytes (memory.bytesAt (getters.getPtr tokenNumber) info.pcdSize)]
  | _ => []

def dumpPcdInfo (memory : Memory) (protocols : Protocols TokenSpace) (pcdInfoIndex : Nat)
    (tokenSpace : Option TokenSpace) (tokenNumber : Nat) (info : PcdInfo) :
    List (Line TokenSpace) :=
  (match tokenSpace with
    | none => [.localToken pcdInfoIndex]
    | some _ => [.exToken pcdInfoIndex]) ++
  [.tokenNumber tokenNumber, .tokenType (getPcdTypeString info.pcdType)] ++
  tokenSpace.toList.map .tokenSpace ++
  info.pcdName.toList.map .pcdName ++
  dumpPcdData memory (protocols.getters tokenSpace) tokenNumber info

/-- PcdInfo, PcdInfoIndex and what is printed. -/
structure Progress (TokenSpace : Type) where
  pcdInfo : PcdInfo
  pcdInfoIndex : Nat
  lines : List (Line TokenSpace)

def nextToken (protocols : Protocols TokenSpace) (tokenSpace : Option TokenSpace)
    (tokenNumber : Nat) : Option Nat :=
  (protocols.getNextToken tokenSpace tokenNumber).filter (· ≠ 0)

def nextTokenSpace (protocols : Protocols TokenSpace) (tokenSpace : Option TokenSpace) :
    Option (Option TokenSpace) :=
  (protocols.getNextTokenSpace tokenSpace).filter (·.isSome)

def dumpToken (memory : Memory) (protocols : Protocols TokenSpace)
    (tokenSpace : Option TokenSpace) (tokenNumber : Nat) (progress : Progress TokenSpace) :
    Progress TokenSpace :=
  let pcdInfo := protocols.getInfo tokenSpace tokenNumber progress.pcdInfo
  { pcdInfo := pcdInfo
    pcdInfoIndex := progress.pcdInfoIndex + 1
    lines := progress.lines ++
      dumpPcdInfo memory protocols progress.pcdInfoIndex tokenSpace tokenNumber pcdInfo }

/-- One turn of the outer loop, without its GetNextTokenSpace. -/
def dumpTokenSpace (memory : Memory) (protocols : Protocols TokenSpace) (fuel : Nat)
    (tokenSpace : Option TokenSpace) (progress : Progress TokenSpace) :
    Option (Progress TokenSpace) :=
  let tokens := follow (nextToken protocols tokenSpace)
    (fun tokenNumber progress => some (dumpToken memory protocols tokenSpace tokenNumber progress))
    fuel 0
  match tokenSpace with
  | none =>
      (tokens { progress with lines := progress.lines ++ [.localTokens] }).map fun progress =>
        { progress with pcdInfoIndex := 0, lines := progress.lines ++ [.exTokens] }
  | some _ => tokens progress

/-- The outer loop: it takes a turn before it asks for a token space. -/
def dumpTokenSpaces (memory : Memory) (protocols : Protocols TokenSpace) (fuel : Nat)
    (progress : Progress TokenSpace) : Option (Progress TokenSpace) :=
  (dumpTokenSpace memory protocols fuel none progress).bind
    (follow (nextTokenSpace protocols) (dumpTokenSpace memory protocols fuel) fuel none)

def initialInfo : PcdInfo where
  pcdType := 0xFF
  pcdSize := 0
  pcdName := none

/-- `none` means that `fuel` tokens or token spaces did not end a loop. -/
def dumpDxePcdProtocolInfo (located : ProtocolName → Bool) (memory : Memory)
    (protocols : Protocols TokenSpace) (fuel : Nat) : Option (List (Line TokenSpace)) :=
  match [ProtocolName.piPcd, .piPcdInfo, .pcd, .pcdInfo].find? (!located ·) with
  | some protocol => some [.missing protocol]
  | none =>
      (dumpTokenSpaces memory protocols fuel ⟨initialInfo, 0, [.dxePcdProtocol]⟩).map (·.lines)

end Dump

/-! ## What there is to show -/

section Catalogue

variable {TokenSpace : Type}

structure Catalogue (TokenSpace : Type) where
  localTokens : List Nat
  spaces : List (TokenSpace × List Nat)

def exTokensOf (spaces : List (TokenSpace × List Nat)) : List (Option TokenSpace × Nat) :=
  spaces.flatMap fun entry => entry.2.map (some entry.1, ·)

def Catalogue.locals (catalogue : Catalogue TokenSpace) : List (Option TokenSpace × Nat) :=
  catalogue.localTokens.map (none, ·)

def Catalogue.exs (catalogue : Catalogue TokenSpace) : List (Option TokenSpace × Nat) :=
  exTokensOf catalogue.spaces

/-- The cursors of the protocols lead through the catalogue and no further. -/
structure Catalogue.Of (protocols : Protocols TokenSpace) (catalogue : Catalogue TokenSpace) :
    Prop where
  localTokens : Follows (nextToken protocols none) 0 catalogue.localTokens
  spaces : Follows (nextTokenSpace protocols) none (catalogue.spaces.map (some ·.1))
  exTokens : ∀ entry ∈ catalogue.spaces,
    Follows (nextToken protocols (some entry.1)) 0 entry.2

/-- A token with its number in the dump and the record that it is shown by. -/
structure Entry (TokenSpace : Type) where
  index : Nat
  tokenSpace : Option TokenSpace
  tokenNumber : Nat
  info : PcdInfo

def Entry.token (entry : Entry TokenSpace) : Option TokenSpace × Nat :=
  (entry.tokenSpace, entry.tokenNumber)

def Entry.lines (memory : Memory) (protocols : Protocols TokenSpace) (entry : Entry TokenSpace) :
    List (Line TokenSpace) :=
  dumpPcdInfo memory protocols entry.index entry.tokenSpace entry.tokenNumber entry.info

/-- Consecutive numbers, and one record that goes from token to token. -/
def entriesFrom (protocols : Protocols TokenSpace) :
    Nat → PcdInfo → List (Option TokenSpace × Nat) → List (Entry TokenSpace)
  | _, _, [] => []
  | index, info, (tokenSpace, tokenNumber) :: rest =>
      let filled := protocols.getInfo tokenSpace tokenNumber info
      ⟨index, tokenSpace, tokenNumber, filled⟩ :: entriesFrom protocols (index + 1) filled rest

def infoAfter (protocols : Protocols TokenSpace) (info : PcdInfo)
    (tokens : List (Option TokenSpace × Nat)) : PcdInfo :=
  tokens.foldl (fun info token => protocols.getInfo token.1 token.2 info) info

def Catalogue.localEntries (protocols : Protocols TokenSpace) (catalogue : Catalogue TokenSpace) :
    List (Entry TokenSpace) :=
  entriesFrom protocols 0 initialInfo catalogue.locals

def Catalogue.exEntries (protocols : Protocols TokenSpace) (catalogue : Catalogue TokenSpace) :
    List (Entry TokenSpace) :=
  entriesFrom protocols 0 (infoAfter protocols initialInfo catalogue.locals) catalogue.exs

def Catalogue.shown (memory : Memory) (protocols : Protocols TokenSpace)
    (catalogue : Catalogue TokenSpace) : List (Line TokenSpace) :=
  [.dxePcdProtocol, .localTokens] ++
    (catalogue.localEntries protocols).flatMap (Entry.lines memory protocols) ++
    [.exTokens] ++
    (catalogue.exEntries protocols).flatMap (Entry.lines memory protocols)

end Catalogue

section Once

variable {TokenSpace : Type} {protocols : Protocols TokenSpace}
variable {catalogue : Catalogue TokenSpace} {tokenSpace : Option TokenSpace} {tokens : List Nat}

theorem nodup_tokens (follows : Follows (nextToken protocols tokenSpace) 0 tokens) :
    (tokens.map (tokenSpace, ·)).Nodup :=
  (List.nodup_cons.mp follows.nodup).2.map fun _ _ same => congrArg Prod.snd same

theorem fst_of_mem_exTokensOf {spaces : List (TokenSpace × List Nat)}
    {token : Option TokenSpace × Nat} (mem : token ∈ exTokensOf spaces) :
    token.1 ∈ spaces.map (some ·.1) := by
  obtain ⟨entry, among, mem⟩ := List.mem_flatMap.mp mem
  obtain ⟨tokenNumber, _, rfl⟩ := List.mem_map.mp mem
  exact List.mem_map.mpr ⟨entry, among, rfl⟩

theorem nodup_exTokensOf {spaces : List (TokenSpace × List Nat)}
    (distinct : (spaces.map fun entry => some entry.1).Nodup)
    (follows : ∀ entry ∈ spaces, Follows (nextToken protocols (some entry.1)) 0 entry.2) :
    (exTokensOf spaces).Nodup := by
  induction spaces with
  | nil => exact List.nodup_nil
  | cons entry rest ih =>
      obtain ⟨fresh, distinct⟩ := List.nodup_cons.mp distinct
      rw [exTokensOf, List.flatMap_cons]
      apply List.Nodup.append
      · exact nodup_tokens (follows entry List.mem_cons_self)
      · exact ih distinct fun other mem => follows other (List.mem_cons_of_mem _ mem)
      · intro token here later
        obtain ⟨tokenNumber, _, rfl⟩ := List.mem_map.mp here
        exact fresh (fst_of_mem_exTokensOf later)

theorem Catalogue.Of.nodup (leads : catalogue.Of protocols) :
    (catalogue.locals ++ catalogue.exs).Nodup := by
  apply List.Nodup.append
  · exact nodup_tokens leads.localTokens
  · exact nodup_exTokensOf (List.nodup_cons.mp leads.spaces.nodup).2 leads.exTokens
  · intro token here later
    obtain ⟨tokenNumber, _, rfl⟩ := List.mem_map.mp here
    obtain ⟨entry, _, same⟩ := List.mem_map.mp (fst_of_mem_exTokensOf later)
    cases same

theorem entriesFrom_tokens (index : Nat) (info : PcdInfo)
    (tokens : List (Option TokenSpace × Nat)) :
    (entriesFrom protocols index info tokens).map Entry.token = tokens := by
  induction tokens generalizing index info with
  | nil => rfl
  | cons token rest ih => rw [entriesFrom, List.map_cons, ih, Entry.token]

/-- No token is shown twice. -/
theorem Catalogue.Of.nodup_entries (leads : catalogue.Of protocols) :
    ((catalogue.localEntries protocols ++ catalogue.exEntries protocols).map
      Entry.token).Nodup := by
  rw [List.map_append, Catalogue.localEntries, Catalogue.exEntries, entriesFrom_tokens,
    entriesFrom_tokens]
  exact leads.nodup

theorem entriesFrom_indices (index : Nat) (info : PcdInfo)
    (tokens : List (Option TokenSpace × Nat)) :
    (entriesFrom protocols index info tokens).map (·.index) =
      List.range' index tokens.length := by
  induction tokens generalizing index info with
  | nil => rfl
  | cons token rest ih => rw [entriesFrom, List.map_cons, ih, List.length_cons, List.range'_succ]

end Once

/-! ## The run -/

section Run

variable {TokenSpace : Type} {protocols : Protocols TokenSpace} {memory : Memory}
variable {tokenSpace : Option TokenSpace} {progress after : Progress TokenSpace}
variable {tokens : List Nat} {fuel : Nat}

/-- The progress with some tokens shown. -/
def Progress.show (memory : Memory) (protocols : Protocols TokenSpace)
    (tokens : List (Option TokenSpace × Nat)) (progress : Progress TokenSpace) :
    Progress TokenSpace where
  pcdInfo := infoAfter protocols progress.pcdInfo tokens
  pcdInfoIndex := progress.pcdInfoIndex + tokens.length
  lines := progress.lines ++
    (entriesFrom protocols progress.pcdInfoIndex progress.pcdInfo tokens).flatMap
      (Entry.lines memory protocols)

theorem show_nil (progress : Progress TokenSpace) :
    progress.show memory protocols [] = progress := by
  rw [Progress.show, infoAfter, entriesFrom, List.flatMap_nil, List.append_nil]
  rfl

theorem show_cons (tokenSpace : Option TokenSpace) (tokenNumber : Nat)
    (rest : List (Option TokenSpace × Nat)) (progress : Progress TokenSpace) :
    progress.show memory protocols ((tokenSpace, tokenNumber) :: rest) =
      (dumpToken memory protocols tokenSpace tokenNumber progress).show memory protocols rest := by
  simp only [Progress.show, dumpToken, infoAfter, entriesFrom, List.foldl_cons,
    List.flatMap_cons, Entry.lines, List.length_cons, List.append_assoc, Progress.mk.injEq,
    true_and, and_true]
  exact Nat.add_right_comm progress.pcdInfoIndex rest.length 1

theorem show_append (tokens rest : List (Option TokenSpace × Nat))
    (progress : Progress TokenSpace) :
    progress.show memory protocols (tokens ++ rest) =
      (progress.show memory protocols tokens).show memory protocols rest := by
  induction tokens generalizing progress with
  | nil => rw [List.nil_append, show_nil]
  | cons token tokens ih => rw [List.cons_append, show_cons, show_cons, ih]

theorem each_dumpToken :
    each (fun tokenNumber progress =>
        some (dumpToken memory protocols tokenSpace tokenNumber progress)) tokens progress =
      some (progress.show memory protocols (tokens.map (tokenSpace, ·))) := by
  induction tokens generalizing progress with
  | nil => rw [List.map_nil, show_nil, each]
  | cons tokenNumber rest ih => rw [List.map_cons, show_cons, each, Option.bind_some, ih]

/-- A token space that has its cursor run out is shown. -/
theorem dumpTokenSpace_some {space : TokenSpace} 
    (follows : Follows (nextToken protocols (some space)) 0 tokens)
    (enough : tokens.length < fuel) :
    dumpTokenSpace memory protocols fuel (some space) progress =
      some (progress.show memory protocols (tokens.map (some space, ·))) := by
  rw [dumpTokenSpace, follow_of_follows follows enough, each_dumpToken]

theorem exists_tokens_of_dumpTokenSpace {space : TokenSpace}
    (run : dumpTokenSpace memory protocols fuel (some space) progress = some after) :
    ∃ tokens, Follows (nextToken protocols (some space)) 0 tokens ∧
      after = progress.show memory protocols (tokens.map (some space, ·)) := by
  obtain ⟨tokens, follows, shown⟩ := exists_follows_of_follow run
  rw [each_dumpToken] at shown
  exact ⟨tokens, follows, (Option.some.inj shown).symm⟩

/-- What the first turn prints beside the tokens, and the numbers it gives back. -/
def Progress.betweenSpaces (memory : Memory) (protocols : Protocols TokenSpace)
    (tokens : List Nat) (progress : Progress TokenSpace) : Progress TokenSpace :=
  let shown := Progress.show memory protocols (tokens.map (none, ·))
    { progress with lines := progress.lines ++ [.localTokens] }
  { shown with pcdInfoIndex := 0, lines := shown.lines ++ [.exTokens] }

theorem dumpTokenSpace_none (follows : Follows (nextToken protocols none) 0 tokens)
    (enough : tokens.length < fuel) :
    dumpTokenSpace memory protocols fuel none progress =
      some (progress.betweenSpaces memory protocols tokens) := by
  rw [dumpTokenSpace, follow_of_follows follows enough, each_dumpToken]
  rfl

theorem exists_tokens_of_dumpTokenSpace_none
    (run : dumpTokenSpace memory protocols fuel none progress = some after) :
    ∃ tokens, Follows (nextToken protocols none) 0 tokens ∧
      after = progress.betweenSpaces memory protocols tokens := by
  obtain ⟨shown, inner, rfl⟩ := Option.map_eq_some_iff.mp run
  obtain ⟨tokens, follows, same⟩ := exists_follows_of_follow inner
  rw [each_dumpToken] at same
  cases same
  exact ⟨tokens, follows, rfl⟩

theorem each_dumpTokenSpace {spaces : List (TokenSpace × List Nat)}
    (follows : ∀ entry ∈ spaces, Follows (nextToken protocols (some entry.1)) 0 entry.2)
    (enough : ∀ entry ∈ spaces, entry.2.length < fuel) :
    each (dumpTokenSpace memory protocols fuel) (spaces.map (some ·.1)) progress =
      some (progress.show memory protocols (exTokensOf spaces)) := by
  induction spaces generalizing progress with
  | nil => rw [exTokensOf, List.flatMap_nil, show_nil, List.map_nil, each]
  | cons entry rest ih =>
      rw [List.map_cons, each,
        dumpTokenSpace_some (follows entry List.mem_cons_self) (enough entry List.mem_cons_self),
        Option.bind_some,
        ih (fun other mem => follows other (List.mem_cons_of_mem _ mem))
          (fun other mem => enough other (List.mem_cons_of_mem _ mem)),
        ← show_append]
      rfl

theorem exists_spaces_of_each {keys : List (Option TokenSpace)} (noNull : none ∉ keys)
    (run : each (dumpTokenSpace memory protocols fuel) keys progress = some after) :
    ∃ spaces : List (TokenSpace × List Nat), spaces.map (some ·.1) = keys ∧
      (∀ entry ∈ spaces, Follows (nextToken protocols (some entry.1)) 0 entry.2) ∧
      after = progress.show memory protocols (exTokensOf spaces) := by
  induction keys generalizing progress with
  | nil =>
      cases run
      refine ⟨[], rfl, fun entry mem => absurd mem List.not_mem_nil, ?_⟩
      rw [exTokensOf, List.flatMap_nil, show_nil]
  | cons key rest ih =>
      obtain ⟨nonNull, noneOfRest⟩ := not_or.mp fun among => noNull (List.mem_cons.mpr among)
      obtain ⟨space, rfl⟩ := Option.ne_none_iff_exists'.mp (Ne.symm nonNull)
      rw [each] at run
      obtain ⟨middle, first, later⟩ := Option.bind_eq_some_iff.mp run
      obtain ⟨tokens, follows, rfl⟩ := exists_tokens_of_dumpTokenSpace first
      obtain ⟨spaces, rfl, all, rfl⟩ := ih noneOfRest later
      refine ⟨(space, tokens) :: spaces, rfl, ?_, ?_⟩
      · intro entry mem
        rcases List.mem_cons.mp mem with rfl | mem
        · exact follows
        · exact all entry mem
      · rw [← show_append]
        rfl

/-- GetNextTokenSpace never leads the loop back to the default token space. -/
theorem nextTokenSpace_ne_null (before : Option TokenSpace) :
    nextTokenSpace protocols before ≠ some none := by
  intro null
  have isSome := (Option.filter_eq_some_iff.mp null).2
  cases isSome

theorem dumpTokenSpaces_of {catalogue : Catalogue TokenSpace} (leads : catalogue.Of protocols)
    (enoughLocals : catalogue.localTokens.length < fuel)
    (enoughSpaces : catalogue.spaces.length < fuel)
    (enough : ∀ entry ∈ catalogue.spaces, entry.2.length < fuel) :
    dumpTokenSpaces memory protocols fuel progress =
      some ((progress.betweenSpaces memory protocols catalogue.localTokens).show memory protocols
        catalogue.exs) := by
  rw [dumpTokenSpaces, dumpTokenSpace_none leads.localTokens enoughLocals, Option.bind_some,
    follow_of_follows leads.spaces (by rwa [List.length_map]),
    each_dumpTokenSpace leads.exTokens enough]
  rfl

theorem exists_catalogue_of_dumpTokenSpaces
    (run : dumpTokenSpaces memory protocols fuel progress = some after) :
    ∃ catalogue : Catalogue TokenSpace, catalogue.Of protocols ∧
      after = (progress.betweenSpaces memory protocols catalogue.localTokens).show memory protocols
        catalogue.exs := by
  obtain ⟨middle, first, later⟩ := Option.bind_eq_some_iff.mp run
  obtain ⟨localTokens, locals, rfl⟩ := exists_tokens_of_dumpTokenSpace_none first
  obtain ⟨keys, follows, shown⟩ := exists_follows_of_follow later
  obtain ⟨spaces, rfl, exTokens, rfl⟩ :=
    exists_spaces_of_each (follows.notMem_of_next nextTokenSpace_ne_null) shown
  exact ⟨⟨localTokens, spaces⟩, ⟨locals, follows, exTokens⟩, rfl⟩

theorem exists_bound (spaces : List (TokenSpace × List Nat)) :
    ∃ bound, ∀ entry ∈ spaces, entry.2.length ≤ bound := by
  induction spaces with
  | nil => exact ⟨0, fun entry mem => absurd mem List.not_mem_nil⟩
  | cons head rest ih =>
      obtain ⟨bound, below⟩ := ih
      refine ⟨max head.2.length bound, ?_⟩
      intro entry mem
      rcases List.mem_cons.mp mem with rfl | mem
      · exact le_max_left _ _
      · exact (below entry mem).trans (le_max_right _ _)

theorem Catalogue.exists_fuel (catalogue : Catalogue TokenSpace) :
    ∃ fuel, catalogue.localTokens.length < fuel ∧ catalogue.spaces.length < fuel ∧
      ∀ entry ∈ catalogue.spaces, entry.2.length < fuel := by
  obtain ⟨bound, below⟩ := exists_bound catalogue.spaces
  refine ⟨catalogue.localTokens.length + catalogue.spaces.length + bound + 1,
    by omega, by omega, ?_⟩
  intro entry mem
  have below := below entry mem
  omega

theorem dumpDxePcdProtocolInfo_of_located {located : ProtocolName → Bool}
    (all : ∀ protocol, located protocol = true) :
    dumpDxePcdProtocolInfo located memory protocols fuel =
      (dumpTokenSpaces memory protocols fuel ⟨initialInfo, 0, [.dxePcdProtocol]⟩).map
        (·.lines) := by
  have found : [ProtocolName.piPcd, .piPcdInfo, .pcd, .pcdInfo].find? (!located ·) = none := by
    rw [List.find?_eq_none]
    intro protocol _
    simp [all protocol]
  rw [dumpDxePcdProtocolInfo, found]

/-- The dump ends exactly when the cursors run out.  Then it has shown each token of the default
token space and of each token space that the cursors lead to, once and in their order, the
tokens of the default space numbered by themselves and all others together. -/
theorem dumpDxePcdProtocolInfo_run (located : ProtocolName → Bool) (memory : Memory)
    (protocols : Protocols TokenSpace) (lines : List (Line TokenSpace))
    (all : ∀ protocol, located protocol = true) :
    (∃ fuel, dumpDxePcdProtocolInfo located memory protocols fuel = some lines) ↔
      ∃ catalogue : Catalogue TokenSpace, catalogue.Of protocols ∧
        ((catalogue.localEntries protocols ++ catalogue.exEntries protocols).map
          Entry.token).Nodup ∧
        (catalogue.localEntries protocols).map (·.index) =
          List.range' 0 catalogue.locals.length ∧
        (catalogue.exEntries protocols).map (·.index) = List.range' 0 catalogue.exs.length ∧
        lines = catalogue.shown memory protocols := by
  have shown : ∀ catalogue : Catalogue TokenSpace,
      (((⟨initialInfo, 0, [.dxePcdProtocol]⟩ : Progress TokenSpace).betweenSpaces memory protocols
        catalogue.localTokens).show memory protocols catalogue.exs).lines =
        catalogue.shown memory protocols := fun _ => rfl
  constructor
  · rintro ⟨fuel, run⟩
    rw [dumpDxePcdProtocolInfo_of_located all] at run
    obtain ⟨last, returned, rfl⟩ := Option.map_eq_some_iff.mp run
    obtain ⟨catalogue, leads, rfl⟩ := exists_catalogue_of_dumpTokenSpaces returned
    exact ⟨catalogue, leads, leads.nodup_entries, entriesFrom_indices _ _ _,
      entriesFrom_indices _ _ _, shown catalogue⟩
  · rintro ⟨catalogue, leads, _, _, _, rfl⟩
    obtain ⟨fuel, enoughLocals, enoughSpaces, enough⟩ := catalogue.exists_fuel
    refine ⟨fuel, ?_⟩
    rw [dumpDxePcdProtocolInfo_of_located all]
    exact Option.map_eq_some_iff.mpr
      ⟨_, dumpTokenSpaces_of leads enoughLocals enoughSpaces enough, shown catalogue⟩

/-- A byte in the default token space, and the pair of tokens of one further token space of which
the second has no record. -/
def twoSpaces : Protocols Unit where
  pcd := ⟨fun _ => 0x5A, fun _ => 0, fun _ => 0, fun _ => 0, fun _ => false, fun _ => 0⟩
  pcdInfo := fun _ _ => ⟨0, 1, none⟩
  piPcd := fun _ => ⟨fun _ => 0, fun _ => 0, fun _ => 0, fun _ => 0, fun _ => true, fun _ => 0⟩
  piPcdInfo := fun _ number info => if number = 3 then ⟨4, 1, none⟩ else info
  getNextToken := fun space number =>
    match space, number with
    | none, 0 => some 7
    | some (), 0 => some 3
    | some (), 3 => some 4
    | _, _ => none
  getNextTokenSpace := fun space => if space.isNone then some (some ()) else some none

/-- Its second token is shown by the record of the first. -/
theorem dumpDxePcdProtocolInfo_run_twoSpaces :
    ∃ fuel, dumpDxePcdProtocolInfo (fun _ => true) (fun _ => 0) twoSpaces fuel = some
      [.dxePcdProtocol, .localTokens,
        .localToken 0, .tokenNumber 7, .tokenType "UINT8", .data 1 0x5A,
        .exTokens,
        .exToken 0, .tokenNumber 3, .tokenType "BOOLEAN", .tokenSpace (), .boolean true,
        .exToken 1, .tokenNumber 4, .tokenType "BOOLEAN", .tokenSpace (), .boolean true] := by
  apply (dumpDxePcdProtocolInfo_run (fun _ => true) (fun _ => 0) twoSpaces _ fun _ => rfl).mpr
  have leads : Catalogue.Of twoSpaces ⟨[7], [((), [3, 4])]⟩ := by
    refine ⟨Follows.more rfl (Follows.done rfl), Follows.more rfl (Follows.done rfl), ?_⟩
    intro entry mem
    rw [List.mem_singleton.mp mem]
    exact Follows.more rfl (Follows.more rfl (Follows.done rfl))
  exact ⟨_, leads, leads.nodup_entries, rfl, rfl, by decide⟩

end Run

end AppEfi.PcdDump.Protocol
