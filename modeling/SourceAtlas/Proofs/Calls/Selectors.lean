import SourceAtlas.Extract.ObjC
import SourceAtlas.Proofs.Tree.Addresses

namespace SourceAtlas.ObjC

variable {v : View} {keyword : String} {message receiver : Place}

def selector (keywords : List String) : String := String.ofList (keywords.flatMap fun k => k.toList ++ [':'])

structure Spells (v : View) (name : Place) (keyword : String) : Prop where
  isKeyword : isKeyword name = true
  text : v.text? name = some keyword

lemma Spells.text_eq {name : Place} (h : Spells v name keyword) : v.text name = keyword := by
  have ht : v.source.text? name.node.start name.node.stop = some keyword := h.text
  rw [View.text, View.slice, ht, Option.getD_some]

lemma Spells.chars_eq {name : Place} (h : Spells v name keyword) : v.chars name = keyword.toList := by
  rw [View.chars, h.text_eq]

lemma isColon_of_isKeyword {p : Place} (h : isKeyword p = true) : isColon p = false := by
  have hk : p.kind = "identifier" := beq_iff_eq.mp h
  rw [isColon, hk]
  decide

lemma isKeyword_of_isColon {p : Place} (h : isColon p = true) : isKeyword p = false := by
  have hk : p.kind = ":" := beq_iff_eq.mp h
  rw [isKeyword, hk]
  decide

section Declared

variable {method name parameter colon : Place} {more : List Place}

def isSelectorPart (p : Place) : Bool := p.isAny ["identifier", "method_parameter", ":"]

/-- Keywords and parameters of a declaration: a keyword stands before its parameter, which then starts with the colon,
or it is the beginning of its parameter. -/
inductive Declares (v : View) : List String → List Place → Prop
  | nil : Declares v [] []
  | apart {keyword : String} {keywords : List String} {name parameter colon : Place} {more rest : List Place}
      (hn : Spells v name keyword) (hp : parameter.kind = "method_parameter")
      (hc : parameter.children = colon :: more) (hcolon : isColon colon = true) (hr : Declares v keywords rest) :
      Declares v (keyword :: keywords) (name :: parameter :: rest)
  | together {keyword : String} {keywords : List String} {name parameter colon : Place} {more rest : List Place}
      (hp : parameter.kind = "method_parameter") (hc : parameter.children = name :: colon :: more)
      (hn : Spells v name keyword) (hcolon : isColon colon = true) (hr : Declares v keywords rest) :
      Declares v (keyword :: keywords) (parameter :: rest)

lemma addSelectorPart_name (h : Spells v name keyword) (done : List (List Char)) :
    addSelectorPart v done name = done ++ [keyword.toList] := by
  rw [addSelectorPart, if_pos h.isKeyword, h.chars_eq]

lemma isKeyword_of_parameter (h : parameter.kind = "method_parameter") : isKeyword parameter = false := by
  rw [isKeyword, h]
  decide

lemma addSelectorPart_colon (hp : parameter.kind = "method_parameter") (h : parameter.children = colon :: more)
    (hc : isColon colon = true) (done : List (List Char)) : addSelectorPart v done parameter = closeLast done := by
  have hnone : parameterKeyword? parameter = none := by
    rw [parameterKeyword?, h]
    cases more with
    | nil => rfl
    | cons second more => simp [isKeyword_of_isColon hc]
  rw [addSelectorPart, isKeyword_of_parameter hp, hp, hnone]
  simp

lemma addSelectorPart_keyword (hp : parameter.kind = "method_parameter")
    (h : parameter.children = name :: colon :: more) (hn : Spells v name keyword) (hc : isColon colon = true)
    (done : List (List Char)) : addSelectorPart v done parameter = done ++ [keyword.toList ++ [':']] := by
  have hsome : parameterKeyword? parameter = some name := by simp [parameterKeyword?, h, hn.isKeyword, hc]
  rw [addSelectorPart, isKeyword_of_parameter hp, hp, hsome]
  simp [hn.chars_eq]

lemma closeLast_concat {part : List Char} (h : ':' ∉ part) (done : List (List Char)) :
    closeLast (done ++ [part]) = done ++ [part ++ [':']] := by
  induction done with
  | nil =>
    have hlast : part.getLast? ≠ some ':' := fun he => h (List.mem_of_getLast? he)
    simp [closeLast, hlast]
  | cons first done ih =>
    obtain ⟨second, more, hd⟩ := List.exists_cons_of_ne_nil (List.append_ne_nil_of_right_ne_nil done
      (List.cons_ne_nil part []))
    rw [List.cons_append, hd, closeLast, ← hd, ih, List.cons_append]
    simp

lemma foldl_addSelectorPart {keywords : List String} {parts : List Place} (hd : Declares v keywords parts)
    (hk : ∀ k ∈ keywords, ':' ∉ k.toList) (done : List (List Char)) :
    parts.foldl (addSelectorPart v) done = done ++ keywords.map fun k => k.toList ++ [':'] := by
  induction hd generalizing done with
  | nil => simp
  | apart hn hp hc hcolon _ ih =>
    obtain ⟨hfirst, hrest⟩ := List.forall_mem_cons.mp hk
    rw [List.foldl_cons, List.foldl_cons, addSelectorPart_name hn, addSelectorPart_colon hp hc hcolon,
      closeLast_concat hfirst, ih hrest, List.map_cons, List.append_assoc, List.singleton_append]
  | together hp hc hn hcolon _ ih =>
    obtain ⟨-, hrest⟩ := List.forall_mem_cons.mp hk
    rw [List.foldl_cons, addSelectorPart_keyword hp hc hn hcolon, ih hrest, List.map_cons, List.append_assoc,
      List.singleton_append]

lemma foldl_children (method : Place) :
    method.children.foldl (addSelectorPart v) [] =
      (method.children.filter isSelectorPart).foldl (addSelectorPart v) [] := by
  rw [List.foldl_filter]
  congr 1
  funext done child
  split
  · rfl
  · rename_i hs
    simp only [isSelectorPart, Place.isAny, List.contains_cons, List.contains_nil, Bool.or_false, Bool.or_eq_true,
      not_or] at hs
    obtain ⟨hname, hparameter, hcolon⟩ := hs
    rw [addSelectorPart, if_neg (show ¬ isKeyword child = true from hname), if_neg]
    exact fun h => (Bool.or_eq_true_iff.mp h).elim hcolon hparameter

lemma methodSelector?_of_declares {keywords : List String} (hn : keywords ≠ [])
    (hk : ∀ k ∈ keywords, ':' ∉ k.toList) (hd : Declares v keywords (method.children.filter isSelectorPart)) :
    methodSelector? v method = some (selector keywords) := by
  rw [methodSelector?, foldl_children, foldl_addSelectorPart hd hk, List.nil_append, ← List.flatMap_def]
  obtain ⟨first, more, rfl⟩ := List.exists_cons_of_ne_nil hn
  exact if_neg (by simp)

lemma methodSelector?_of_name (hk : keyword ≠ "") (hs : Spells v name keyword)
    (h : method.children.filter isSelectorPart = [name]) : methodSelector? v method = some keyword := by
  rw [methodSelector?, foldl_children, h, List.foldl_cons, List.foldl_nil, addSelectorPart_name hs, List.nil_append,
    List.flatten_singleton]
  simpa using hk

end Declared

section Sent

variable {bracket : Place} {rest parts arguments : List Place} {keywords : List String}

inductive Sends (v : View) : List String → List Place → Prop
  | nil : Sends v [] []
  | cons {keyword : String} {keywords : List String} {name colon : Place} {arguments rest : List Place}
      (hn : Spells v name keyword) (hc : isColon colon = true) (ha : ∀ a ∈ arguments, isColon a = false)
      (hr : Sends v keywords rest) :
      Sends v (keyword :: keywords) (name :: colon :: (arguments ++ rest))

lemma Sends.single {name colon argument : Place} (hn : Spells v name keyword) (hc : isColon colon = true)
    (ha : isColon argument = false) (hr : Sends v keywords rest) :
    Sends v (keyword :: keywords) (name :: colon :: argument :: rest) :=
  .cons hn hc (List.forall_mem_singleton.mpr ha) hr

/-- A message whose receiver is followed by certain parts and the closing bracket. The arguments are not grouped with
their keywords. -/
structure IsMessage (message : Place) (parts : List Place) : Prop where
  plain : ∀ c ∈ message.children, c.kind ≠ "keyword_argument"
  shape : ∃ front receiver bracket,
    (message.childByField? "receiver").or message.namedChildren.head? = some receiver ∧
      message.children = front ++ receiver :: (parts ++ [bracket]) ∧ bracket.kind = "]"

lemma argumentKeywords_of_plain (h : ∀ c ∈ message.children, c.kind ≠ "keyword_argument") :
    argumentKeywords v message = [] := by
  have hnone : message.namedChildren.filter (·.kind == "keyword_argument") = [] :=
    List.filter_eq_nil_iff.mpr fun c hc => by simpa using h c (List.mem_filter.mp hc).1
  rw [argumentKeywords, hnone]
  rfl

lemma afterReceiver_eq {front : List Place} (h : message.children = front ++ receiver :: rest) :
    afterReceiver message receiver = rest := by
  have hpairwise := h ▸ message.pairwise_address_children
  have hfront : ∀ p ∈ front, (p.address != receiver.address) = true := fun p hp =>
    bne_iff_ne.mpr ((List.pairwise_append.mp hpairwise).2.2 p hp receiver List.mem_cons_self)
  rw [afterReceiver, h, List.dropWhile_append_of_pos hfront, List.dropWhile_cons_of_neg (by simp), List.tail_cons]

lemma keywordsIn_cons {first : Place} (h : isKeyword first = false ∨ ∀ p ∈ rest.head?, isColon p = false) :
    keywordsIn v (first :: rest) = keywordsIn v rest := by
  cases rest with
  | nil => rfl
  | cons second rest =>
    have hpair : (isKeyword first && isColon second) = false := by
      rcases h with h | h
      · rw [h, Bool.false_and]
      · rw [h second rfl, Bool.and_false]
    rw [keywordsIn, hpair]
    rfl

lemma keywordsIn_append (ha : ∀ a ∈ arguments, isColon a = false)
    (hr : ∀ p ∈ rest.head?, isColon p = false) : keywordsIn v (arguments ++ rest) = keywordsIn v rest := by
  induction arguments with
  | nil => rfl
  | cons first arguments ih =>
    obtain ⟨-, ha⟩ := List.forall_mem_cons.mp ha
    rw [List.cons_append, keywordsIn_cons (.inr ?_), ih ha]
    cases arguments with
    | nil => exact hr
    | cons second arguments => simpa using ha second List.mem_cons_self

lemma Sends.head_append (h : Sends v keywords parts) (hb : isColon bracket = false) :
    ∀ p ∈ (parts ++ [bracket]).head?, isColon p = false := by
  cases h with
  | nil => simpa using hb
  | cons hn _ _ _ => simpa using isColon_of_isKeyword hn.isKeyword

/-- An argument may be a name, but the colon comes right behind keywords only. -/
lemma keywordsIn_of_sends (h : Sends v keywords parts) (hb : isColon bracket = false) :
    keywordsIn v (parts ++ [bracket]) = keywords.map fun k => k.toList ++ [':'] := by
  induction h with
  | nil => rfl
  | cons hn hc ha hr ih =>
    rw [List.cons_append, List.cons_append, keywordsIn, hn.isKeyword, hc, Bool.and_self, if_pos rfl, hn.chars_eq,
      keywordsIn_cons (.inl (isKeyword_of_isColon hc)), List.append_assoc,
      keywordsIn_append ha (hr.head_append hb), ih, List.map_cons, List.singleton_append]

lemma isColon_bracket (h : bracket.kind = "]") : isColon bracket = false := by
  rw [isColon, h]
  decide

lemma messageSelector?_of_sends (hn : keywords ≠ []) (hm : IsMessage message parts) (hs : Sends v keywords parts) :
    messageSelector? v message = some (selector keywords) := by
  obtain ⟨front, receiver, bracket, hreceiver, hchildren, hbracket⟩ := hm.shape
  have hselector := keywordsIn_of_sends hs (isColon_bracket hbracket)
  rw [messageSelector?, argumentKeywords_of_plain hm.plain]
  simp only [List.flatten_nil, List.isEmpty_nil, Bool.not_true, Bool.false_eq_true, if_false, hreceiver,
    Option.bind_some, afterReceiver_eq hchildren, hselector]
  cases hs with
  | nil => exact absurd rfl hn
  | cons _ hc _ _ => simp [hc, selector, List.flatMap_def]

lemma messageSelector?_of_name {name : Place} (hm : IsMessage message [name]) (hs : Spells v name keyword) :
    messageSelector? v message = some keyword := by
  obtain ⟨front, receiver, bracket, hreceiver, hchildren, hbracket⟩ := hm.shape
  rw [messageSelector?, argumentKeywords_of_plain hm.plain]
  simp [hreceiver, afterReceiver_eq hchildren, isColon_of_isKeyword hs.isKeyword, isColon_bracket hbracket,
    hs.isKeyword, hs.text_eq]

end Sent

/-- A method that is declared with certain keywords has the selector that messages with these keywords send, and a
method without parameters has the name that is sent to it. -/
theorem declared_and_sent_selectors_agree (v : View) (keywords : List String) (hn : keywords ≠ [])
    (hk : ∀ k ∈ keywords, k ≠ "" ∧ ':' ∉ k.toList) :
    (∀ method, Declares v keywords (method.children.filter isSelectorPart) →
      methodSelector? v method = some (selector keywords)) ∧
    (∀ message parts, IsMessage message parts → Sends v keywords parts →
      messageSelector? v message = some (selector keywords)) ∧
    ∀ k ∈ keywords, ∀ name, Spells v name k →
      (∀ method, method.children.filter isSelectorPart = [name] → methodSelector? v method = some k) ∧
      ∀ message, IsMessage message [name] → messageSelector? v message = some k := by
  refine ⟨fun method hd => ?_, fun message parts hm hs => messageSelector?_of_sends hn hm hs, fun k hm name hs => ?_⟩
  · exact methodSelector?_of_declares hn (fun k hm => (hk k hm).2) hd
  · exact ⟨fun method => methodSelector?_of_name (hk k hm).1 hs, fun message h => messageSelector?_of_name h hs⟩

/-- The arguments have the names of keywords, and the receiver is told by its field. The keywords of the method stand
before its parameters or in them. -/
theorem keywords_as_arguments_leave_selector :
    let leaf (kind : String) (start stop : ℕ) : Node := ⟨kind, kind == "identifier", none, start, stop, {}, []⟩
    let method : Place := .ofRoot ⟨"method_definition", true, none, 0, 16, {},
      [leaf "-" 0 1, leaf "identifier" 2 4, ⟨"method_parameter", true, none, 4, 9, {}, [leaf ":" 4 5]⟩,
        leaf "identifier" 10 11, ⟨"method_parameter", true, none, 11, 16, {}, [leaf ":" 11 12]⟩]⟩
    let grouped : Place := .ofRoot ⟨"method_declaration", true, none, 0, 16, {},
      [leaf "-" 0 1, ⟨"method_parameter", true, none, 2, 9, {}, [leaf "identifier" 2 4, leaf ":" 4 5]⟩,
        ⟨"method_parameter", true, none, 10, 16, {}, [leaf "identifier" 10 11, leaf ":" 11 12]⟩]⟩
    let message : Place := .ofRoot ⟨"message_expression", true, none, 17, 30, {},
      [leaf "[" 17 18, ⟨"identifier", true, some "receiver", 18, 19, {}, []⟩, leaf "identifier" 20 22, leaf ":" 22 23,
        leaf "identifier" 23 24, leaf "identifier" 25 26, leaf ":" 26 27, leaf "identifier" 27 29, leaf "]" 29 30]⟩
    let v : View := ⟨⟨"a.m"⟩, .objC, "- at:(A)b y:(A)c [p at:y y:at]".toUTF8.data.toList, method⟩
    methodSelector? v method = some "at:y:" ∧ methodSelector? v grouped = some "at:y:" ∧
      messageSelector? v message = some "at:y:" := by
  intro leaf method grouped message v
  obtain ⟨hmethod, hmessage, -⟩ := declared_and_sent_selectors_agree v ["at", "y"] (by simp) (by decide +kernel)
  have hparts : IsMessage message ((message.children.drop 2).take 6) :=
    ⟨by decide +kernel, message.children.take 1, _, _, rfl, rfl, rfl⟩
  refine ⟨hmethod method ?_, hmethod grouped ?_, hmessage message _ hparts ?_⟩
  · refine .apart ⟨rfl, ?_⟩ rfl rfl rfl (.apart ⟨rfl, ?_⟩ rfl rfl rfl .nil) <;> decide +kernel
  · refine .together rfl rfl ⟨rfl, ?_⟩ rfl (.together rfl rfl ⟨rfl, ?_⟩ rfl .nil) <;> decide +kernel
  · refine .single ⟨rfl, ?_⟩ rfl rfl (.single ⟨rfl, ?_⟩ rfl rfl .nil) <;> decide +kernel

end SourceAtlas.ObjC
