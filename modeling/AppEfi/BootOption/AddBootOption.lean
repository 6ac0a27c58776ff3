import Mathlib.Data.List.Nodup
import AppEfi.Lib.DevicePath
import AppEfi.Lib.KeyedStore
import AppEfi.Lib.Runs

/-!
# Adding a boot option

`GetNewBootIndex` and `AddBootOption` of BootOption.c over the global variables
of the firmware, and the runs of `BootOption -add`.  The variable services and
the allocations succeed.
-/

set_option autoImplicit false

namespace AppEfi.BootOption

open AppEfi.LittleEndian
open AppEfi.Runs

abbrev VariableName := List Char

abbrev Variables := KeyedStore VariableName (List UInt8)

def bootOrderName : VariableName := ['B', 'o', 'o', 't', 'O', 'r', 'd', 'e', 'r']

def hexDigit (value : Nat) : Char :=
  if value < 10 then Char.ofNat (0x30 + value) else Char.ofNat (0x37 + value)

/-- `L"Boot%04x"`. -/
def optionName (bootIndex : UInt16) : VariableName :=
  ['B', 'o', 'o', 't',
    hexDigit (bootIndex.toNat / 0x1000 % 0x10), hexDigit (bootIndex.toNat / 0x100 % 0x10),
    hexDigit (bootIndex.toNat / 0x10 % 0x10), hexDigit (bootIndex.toNat % 0x10)]

/-! ## The new index -/

/-- The inner loop.  `NewIndex` is compared with the position in the buffer,
not with the entry that stands there. -/
def matchesEntry (entries newIndex : Nat) : Bool :=
  (List.range entries).foldl (fun found index => if newIndex = index then true else found) false

/-- The outer loop, from `newIndex` on for as many values as remain. -/
def findNewIndex (entries : Nat) : Nat → Nat → Option Nat
  | 0, _ => none
  | remaining + 1, newIndex =>
      if matchesEntry entries newIndex then findNewIndex entries remaining (newIndex + 1)
      else some newIndex

def getNewBootIndex (store : Variables) : UInt16 × Variables :=
  match store bootOrderName with
  | none => (0, store.set bootOrderName (toBytes 2 0))
  | some buffer =>
      match findNewIndex (buffer.length / 2) 0xFFFF 0 with
      | some newIndex =>
          (UInt16.ofNat newIndex, store.set bootOrderName (toBytes 2 newIndex ++ buffer))
      | none => (0xFFFF, store)

/-! ## The option -/

def loadOptionActive : Nat := 1

def encodeString (characters : List UInt16) : List UInt8 :=
  characters.flatMap (fun character => toBytes 2 character.toNat) ++ [0, 0]

/-- `EFI_LOAD_OPTION`, the description and the device path.  The size of the
path is stored in 16 bits. -/
def encodeOption (filePath : List UInt16) (filePathList : DevicePath) : List UInt8 :=
  toBytes 4 loadOptionActive ++ toBytes 2 filePathList.size ++ encodeString filePath ++
    filePathList.encode

def addBootOption (convertTextToDevicePath : List UInt16 → DevicePath)
    (filePath : List UInt16) (store : Variables) : Variables :=
  let (newBootIndex, store) := getNewBootIndex store
  store.set (optionName newBootIndex)
    (encodeOption filePath (convertTextToDevicePath filePath))

theorem hexDigit_inj {first second : Nat} (firstDigit : first < 16) (secondDigit : second < 16)
    (same : hexDigit first = hexDigit second) : first = second := by
  have digits : ∀ a b : Fin 16, hexDigit a.val = hexDigit b.val → a = b := by decide
  exact congrArg Fin.val (digits ⟨first, firstDigit⟩ ⟨second, secondDigit⟩ same)

theorem optionName_inj {first second : UInt16}
    (same : optionName first = optionName second) : first = second := by
  simp only [optionName, List.cons.injEq, true_and, and_true] at same
  obtain ⟨thousands, hundreds, tens, ones⟩ := same
  have digit (value : Nat) : value % 0x10 < 16 := Nat.mod_lt _ (by decide)
  have thousands := hexDigit_inj (digit _) (digit _) thousands
  have hundreds := hexDigit_inj (digit _) (digit _) hundreds
  have tens := hexDigit_inj (digit _) (digit _) tens
  have ones := hexDigit_inj (digit _) (digit _) ones
  have firstBound := first.toNat_lt
  have secondBound := second.toNat_lt
  apply UInt16.toNat_inj.mp
  omega

theorem optionName_ne_bootOrderName (bootIndex : UInt16) :
    optionName bootIndex ≠ bootOrderName := by
  intro same
  exact absurd (congrArg List.length same) (by simp [optionName, bootOrderName])

/-! ## What a run does to BootOrder -/

def decodeOrder : List UInt8 → List UInt16
  | low :: high :: rest => UInt16.ofNat (ofBytes [low, high]) :: decodeOrder rest
  | _ => []

/-- The entries of BootOrder; an absent variable has none. -/
def bootOrder (store : Variables) : List UInt16 :=
  match store bootOrderName with
  | none => []
  | some buffer => decodeOrder buffer

theorem length_decodeOrder (buffer : List UInt8) :
    (decodeOrder buffer).length = buffer.length / 2 := by
  induction buffer using decodeOrder.induct with
  | case1 low high rest ih =>
      simp only [decodeOrder, List.length_cons, ih]
      omega
  | case2 buffer short =>
      cases buffer with
      | nil => rfl
      | cons first rest =>
          cases rest with
          | nil => simp [decodeOrder]
          | cons second rest => exact absurd rfl (short first second rest)

theorem decodeOrder_cons (newIndex : Nat) (buffer : List UInt8) :
    decodeOrder (toBytes 2 newIndex ++ buffer) = UInt16.ofNat newIndex :: decodeOrder buffer := by
  have value : UInt16.ofNat (ofBytes (toBytes 2 newIndex)) = UInt16.ofNat newIndex := by
    rw [ofBytes_toBytes]
    apply UInt16.toNat_inj.mp
    simp
  rw [← value]
  rfl

theorem matchesEntry_eq (entries newIndex : Nat) :
    matchesEntry entries newIndex = decide (newIndex < entries) := by
  induction entries with
  | zero => rfl
  | succ entries ih =>
      unfold matchesEntry at ih ⊢
      rw [List.range_succ, List.foldl_append, ih]
      by_cases last : newIndex = entries
      · simp [last]
      · simp only [List.foldl_cons, List.foldl_nil, if_neg last]
        apply decide_eq_decide.mpr
        omega

/-- The search stops at the number of entries, whatever the entries are. -/
theorem findNewIndex_eq {entries : Nat} (remaining : Nat) :
    ∀ newIndex, newIndex ≤ entries → entries < newIndex + remaining →
      findNewIndex entries remaining newIndex = some entries := by
  induction remaining with
  | zero =>
      intro newIndex reached room
      omega
  | succ remaining ih =>
      intro newIndex reached room
      rw [findNewIndex, matchesEntry_eq]
      by_cases before : newIndex < entries
      · rw [if_pos (decide_eq_true before)]
        apply ih
        · exact before
        · omega
      · rw [if_neg (by simpa using before)]
        congr 1
        omega

/-- The new index is the number of entries, and it is put in front of them. -/
theorem getNewBootIndex_spec {store : Variables} (room : (bootOrder store).length < 0xFFFF) :
    ∃ buffer,
      getNewBootIndex store =
        (UInt16.ofNat (bootOrder store).length, store.set bootOrderName buffer) ∧
      decodeOrder buffer = UInt16.ofNat (bootOrder store).length :: bootOrder store := by
  cases present : store bootOrderName with
  | none =>
      have empty : bootOrder store = [] := by simp only [bootOrder, present]
      refine ⟨toBytes 2 0, ?_, ?_⟩
      · simp only [getNewBootIndex, present, empty]
        rfl
      · rw [empty]
        exact decodeOrder_cons 0 []
  | some old =>
      have entries : bootOrder store = decodeOrder old := by simp only [bootOrder, present]
      rw [entries, length_decodeOrder] at room
      have found := findNewIndex_eq 0xFFFF 0 (Nat.zero_le (old.length / 2)) (by omega)
      refine ⟨toBytes 2 (old.length / 2) ++ old, ?_, ?_⟩
      · simp only [getNewBootIndex, present, found, entries, length_decodeOrder]
      · rw [entries, length_decodeOrder]
        exact decodeOrder_cons _ old

section Runs

variable (convertTextToDevicePath : List UInt16 → DevicePath)

theorem bootOrder_set_optionName (store : Variables) (bootIndex : UInt16) (value : List UInt8) :
    bootOrder (store.set (optionName bootIndex) value) = bootOrder store := by
  unfold bootOrder
  rw [KeyedStore.set_of_ne store value (optionName_ne_bootOrderName bootIndex).symm]

theorem bootOrder_addBootOption {store : Variables} (filePath : List UInt16)
    (room : (bootOrder store).length < 0xFFFF) :
    bootOrder (addBootOption convertTextToDevicePath filePath store) =
      UInt16.ofNat (bootOrder store).length :: bootOrder store := by
  obtain ⟨buffer, result, decoded⟩ := getNewBootIndex_spec room
  rw [← decoded]
  simp only [addBootOption, result, bootOrder_set_optionName]
  simp only [bootOrder, KeyedStore.set_self]

theorem addBootOption_of_ne {store : Variables} (filePath : List UInt16)
    (room : (bootOrder store).length < 0xFFFF) {bootIndex : UInt16}
    (other : bootIndex ≠ UInt16.ofNat (bootOrder store).length) :
    addBootOption convertTextToDevicePath filePath store (optionName bootIndex) =
      store (optionName bootIndex) := by
  obtain ⟨buffer, result, _⟩ := getNewBootIndex_spec room
  have differentName : optionName bootIndex ≠ optionName (UInt16.ofNat (bootOrder store).length) :=
    fun same => other (optionName_inj same)
  simp only [addBootOption, result]
  rw [KeyedStore.set_of_ne _ _ differentName,
    KeyedStore.set_of_ne _ _ (optionName_ne_bootOrderName bootIndex)]

/-- BootOrder has no entry twice and every option is in it. -/
structure WellFormed (store : Variables) : Prop where
  nodup : (bootOrder store).Nodup
  listed : ∀ bootIndex, store (optionName bootIndex) ≠ none → bootIndex ∈ bootOrder store

/-- What `BootOption -add` is for. -/
structure AddsNewOption (filePath : List UInt16) (store : Variables) : Prop where
  fresh : (getNewBootIndex store).1 ∉ bootOrder store
  preserves : ∀ bootIndex, store (optionName bootIndex) ≠ none →
    addBootOption convertTextToDevicePath filePath store (optionName bootIndex) =
      store (optionName bootIndex)
  prepends : bootOrder (addBootOption convertTextToDevicePath filePath store) =
    (getNewBootIndex store).1 :: bootOrder store
  nodup : (bootOrder (addBootOption convertTextToDevicePath filePath store)).Nodup

def IndexesRemain (_ : List UInt16) (store : Variables) : Prop :=
  (bootOrder store).length < 0xFFFF

def LengthIsFree (_ : List UInt16) (store : Variables) : Prop :=
  UInt16.ofNat (bootOrder store).length ∉ bootOrder store

theorem addsNewOption_iff {store : Variables} (wellFormed : WellFormed store)
    (filePath : List UInt16) (room : IndexesRemain filePath store) :
    AddsNewOption convertTextToDevicePath filePath store ↔ LengthIsFree filePath store := by
  obtain ⟨buffer, result, _⟩ := getNewBootIndex_spec room
  have newIndex : (getNewBootIndex store).1 = UInt16.ofNat (bootOrder store).length := by
    rw [result]
  have prepended := bootOrder_addBootOption convertTextToDevicePath filePath room
  constructor
  · intro adds
    have fresh := adds.fresh
    rwa [newIndex] at fresh
  · intro free
    constructor
    · rwa [newIndex]
    · intro bootIndex present
      apply addBootOption_of_ne convertTextToDevicePath filePath room
      intro same
      apply free
      rw [← same]
      exact wellFormed.listed bootIndex present
    · rw [prepended, newIndex]
    · rw [prepended]
      exact List.nodup_cons.mpr ⟨free, wellFormed.nodup⟩

theorem AddsNewOption.wellFormed {store : Variables} {filePath : List UInt16}
    (adds : AddsNewOption convertTextToDevicePath filePath store)
    (before : WellFormed store) (room : IndexesRemain filePath store) :
    WellFormed (addBootOption convertTextToDevicePath filePath store) := by
  refine ⟨adds.nodup, ?_⟩
  intro bootIndex present
  rw [bootOrder_addBootOption convertTextToDevicePath filePath room]
  by_cases added : bootIndex = UInt16.ofNat (bootOrder store).length
  · rw [added]
    exact List.mem_cons_self
  · rw [addBootOption_of_ne convertTextToDevicePath filePath room added] at present
    exact List.mem_cons_of_mem _ (before.listed bootIndex present)

/-- In a run that does not use up the indexes, every `-add` does what it is for
exactly when the number of entries is not itself an entry whenever one starts. -/
theorem addBootOption_adds_iff {store : Variables} (wellFormed : WellFormed store)
    (filePaths : List (List UInt16))
    (room : EveryStep (addBootOption convertTextToDevicePath) IndexesRemain store filePaths) :
    EveryStep (addBootOption convertTextToDevicePath)
        (AddsNewOption convertTextToDevicePath) store filePaths ↔
      EveryStep (addBootOption convertTextToDevicePath) LengthIsFree store filePaths := by
  refine everyStep_iff ?_ ?_ filePaths store wellFormed room
  · intro filePath state invariant remain
    exact addsNewOption_iff convertTextToDevicePath invariant filePath remain
  · intro filePath state invariant remain adds
    exact adds.wellFormed convertTextToDevicePath invariant remain

end Runs

/-! ## Two stores -/

def noNodes : DevicePath := { nodes := [], wellFormed := by simp }

def storeWith (order : List UInt16) (option : List UInt8) : Variables := fun name =>
  if name = bootOrderName then some (order.flatMap fun bootIndex => toBytes 2 bootIndex.toNat)
  else if name ∈ order.map optionName then some option
  else none

theorem bootOrder_storeWith (order : List UInt16) (option : List UInt8) :
    bootOrder (storeWith order option) = order := by
  have decoded : decodeOrder (order.flatMap fun bootIndex => toBytes 2 bootIndex.toNat) =
      order := by
    induction order with
    | nil => simp [decodeOrder]
    | cons first rest ih =>
        rw [List.flatMap_cons, decodeOrder_cons, ih, UInt16.ofNat_toNat]
  simp only [bootOrder, storeWith, if_true, decoded]

theorem wellFormed_storeWith {order : List UInt16} (nodup : order.Nodup) (option : List UInt8) :
    WellFormed (storeWith order option) := by
  constructor
  · rwa [bootOrder_storeWith]
  · intro bootIndex present
    rw [bootOrder_storeWith]
    by_contra absent
    apply present
    have unlisted : optionName bootIndex ∉ order.map optionName := by
      intro member
      obtain ⟨other, listed, same⟩ := List.mem_map.mp member
      exact absent (optionName_inj same ▸ listed)
    rw [storeWith, if_neg (optionName_ne_bootOrderName bootIndex), if_neg unlisted]

theorem addBootOption_adds_iff_twice :
    EveryStep (addBootOption fun _ => noNodes) (AddsNewOption fun _ => noNodes)
      (storeWith [0x10, 5] [0]) [[0x41], [0x42]] := by
  apply (addBootOption_adds_iff (fun _ => noNodes)
    (@wellFormed_storeWith [0x10, 5] (by decide) [0]) [[0x41], [0x42]] ?_).mpr
  · refine ⟨?_, ?_, trivial⟩
    · unfold LengthIsFree
      decide
    · unfold LengthIsFree
      decide
  · refine ⟨?_, ?_, trivial⟩
    · unfold IndexesRemain
      decide
    · unfold IndexesRemain
      decide

/-- BootOrder holds the one entry 1: the new option gets the same index. -/
theorem addBootOption_overwrites :
    WellFormed (storeWith [1] [0]) ∧
      EveryStep (addBootOption fun _ => noNodes) IndexesRemain (storeWith [1] [0]) [[0x41]] ∧
      ¬ EveryStep (addBootOption fun _ => noNodes) (AddsNewOption fun _ => noNodes)
        (storeWith [1] [0]) [[0x41]] ∧
      bootOrder (addBootOption (fun _ => noNodes) [0x41] (storeWith [1] [0])) = [1, 1] ∧
      addBootOption (fun _ => noNodes) [0x41] (storeWith [1] [0]) (optionName 1) ≠
        storeWith [1] [0] (optionName 1) := by
  refine ⟨wellFormed_storeWith (by decide) [0], ⟨?_, trivial⟩, ?_, by decide, by decide⟩
  · unfold IndexesRemain
    decide
  · intro adds
    exact absurd adds.1.fresh (by decide)

end AppEfi.BootOption
