import QueryModel.Json.Value
import QueryModel.Proofs.Json.Spelling
import QueryModel.Proofs.Json.Within

/-! # Printed values are read back

A document holds a value if it is complete and has the tokens of the value in the places where the
value has them; the lines do not matter. Main statements: a text that spells the tokens of a value
is read into a document that holds the value, and the value is taken from the document again, if it
is not nested too deep and its numbers are read back.
-/

namespace QueryModel.Json

/-! ## Documents that hold values -/

mutual

/-- `document.Holds value`: the document is complete and stands for the value. -/
inductive Document.Holds : Document → Json → Prop
  | null (line : Nat) : Document.Holds (.null line) .null
  | boolean (line : Nat) (value : Bool) : Document.Holds (.boolean line value) (.boolean value)
  | number (line : Nat) (value : Number) : Document.Holds (.number line value.text) (.number value)
  | string (line : Nat) (value : String) :
      Document.Holds (.string line (some value)) (.string value)
  | array (line closing : Nat) {documents : List Document} {items : List Json}
      (hitems : ItemsHold documents items) :
      Document.Holds (.array line documents (.closed closing)) (.array items)
  | object (line closing : Nat) {documents : List (Key × Document)}
      {members : List (String × Json)} (hmembers : MembersHold documents members) :
      Document.Holds (.object line documents (.closed closing)) (.object members)

/-- Documents that hold the items of an array. -/
inductive ItemsHold : List Document → List Json → Prop
  | nil : ItemsHold [] []
  | cons {document : Document} {item : Json} {documents : List Document} {rest : List Json}
      (hitem : document.Holds item) (hrest : ItemsHold documents rest) :
      ItemsHold (document :: documents) (item :: rest)

/-- Names and documents that hold the members of an object. -/
inductive MembersHold : List (Key × Document) → List (String × Json) → Prop
  | nil : MembersHold [] []
  | cons {key : Key} {document : Document} {name : String} {value : Json}
      {documents : List (Key × Document)} {rest : List (String × Json)}
      (hname : key.name = some name) (hvalue : document.Holds value)
      (hrest : MembersHold documents rest) :
      MembersHold ((key, document) :: documents) ((name, value) :: rest)

end

/-! ## Tokens are read into documents -/

namespace Progress

/-- What holds of the progress after some more tokens, on whatever lines they stand. -/
def After (progress : Progress) : List Token → (Progress → Prop) → Prop
  | [], outcome => outcome progress
  | token :: rest, outcome => ∀ line, (progress.step ⟨line, token⟩).After rest outcome

variable {progress : Progress} {outcome : Progress → Prop}

theorem After.foldl {read : List Lexeme} (hafter : progress.After (read.map Lexeme.token) outcome) :
    outcome (read.foldl step progress) := by
  induction read generalizing progress with
  | nil => exact hafter
  | cons lexeme rest ih => exact ih (hafter lexeme.line)

theorem After.append {left right : List Token}
    (hafter : progress.After left fun middle => middle.After right outcome) :
    progress.After (left ++ right) outcome := by
  induction left generalizing progress with
  | nil => exact hafter
  | cons token rest ih => exact fun line => ih (hafter line)

theorem After.mono {tokens : List Token} {weaker : Progress → Prop}
    (hafter : progress.After tokens outcome) (hweaker : ∀ last, outcome last → weaker last) :
    progress.After tokens weaker := by
  induction tokens generalizing progress with
  | nil => exact hweaker progress hafter
  | cons token rest ih => exact fun line => ih (hafter line)

/-- A value has been read into a document, which stands in its place. -/
def HasPlaced (frames : List Frame) (value : Json) (last : Progress) : Prop :=
  ∃ document, document.Holds value ∧ last = place frames document

/-- Items have been read behind those that an array has already. -/
def HasItems (line : Nat) (done : List Document) (frames : List Frame) (items : List Json)
    (last : Progress) : Prop :=
  ∃ documents, ItemsHold documents items ∧
    last = .reading .afterItem (.array line (documents.reverse ++ done) :: frames)

/-- A member has been read behind those that an object has already. -/
def HasMember (line : Nat) (done : List (Key × Document)) (frames : List Frame)
    (member : String × Json) (last : Progress) : Prop :=
  ∃ key document, key.name = some member.1 ∧ document.Holds member.2 ∧
    last = .reading .afterMember (.object line ((key, document) :: done) :: frames)

/-- Members have been read behind those that an object has already. -/
def HasMembers (line : Nat) (done : List (Key × Document)) (frames : List Frame)
    (members : List (String × Json)) (last : Progress) : Prop :=
  ∃ documents, MembersHold documents members ∧
    last = .reading .afterMember (.object line (documents.reverse ++ done) :: frames)

/-- The first item of an array is read as any value: it begins with no closing bracket. -/
theorem After.firstItem {frames : List Frame} {item : Json} {rest : List Json}
    (hafter : (reading .value frames).After (itemTokens (item :: rest)) outcome) :
    (reading .firstItem frames).After (itemTokens (item :: rest)) outcome := by
  cases item <;> exact hafter

/-- The first name in an object is read as any other. -/
theorem After.firstKey {frames : List Frame} {member : String × Json}
    {rest : List (String × Json)}
    (hafter : (reading .key frames).After (memberTokens (member :: rest)) outcome) :
    (reading .firstKey frames).After (memberTokens (member :: rest)) outcome := by
  obtain ⟨name, value⟩ := member
  exact hafter

mutual

/-- Reading the tokens of a value puts a document that holds it into the frames around it. -/
theorem after_tokens (value : Json) (frames : List Frame) :
    (reading .value frames).After value.tokens (HasPlaced frames value) := by
  cases value with
  | null => exact fun line => ⟨_, .null line, rfl⟩
  | boolean value => exact fun line => ⟨_, .boolean line value, rfl⟩
  | number number => exact fun line => ⟨_, .number line number, rfl⟩
  | string value => exact fun line => ⟨_, .string line value, rfl⟩
  | array items =>
    intro line
    have hitems := after_itemTokens items line [] frames
    cases items with
    | nil => exact fun closing => ⟨_, .array line closing .nil, rfl⟩
    | cons item rest =>
      refine .append (.mono (hitems (List.cons_ne_nil _ _)).firstItem ?_)
      rintro last ⟨documents, hdocuments, rfl⟩
      refine fun closing => ⟨_, .array line closing hdocuments, ?_⟩
      simp [step, closeFrame]
  | object members =>
    intro line
    have hmembers := after_memberTokens members line [] frames
    cases members with
    | nil => exact fun closing => ⟨_, .object line closing .nil, rfl⟩
    | cons member rest =>
      refine .append (.mono (hmembers (List.cons_ne_nil _ _)).firstKey ?_)
      rintro last ⟨documents, hdocuments, rfl⟩
      refine fun closing => ⟨_, .object line closing hdocuments, ?_⟩
      simp [step, closeFrame]
termination_by structural value

/-- Items are read in order, behind whatever items the array has already. -/
theorem after_itemTokens (items : List Json) (line : Nat) (done : List Document)
    (frames : List Frame) (hitems : items ≠ []) :
    (reading .value (.array line done :: frames)).After (itemTokens items)
      (HasItems line done frames items) := by
  cases items with
  | nil => exact absurd rfl hitems
  | cons item rest =>
    have hitem := after_tokens item (.array line done :: frames)
    have hrest := after_itemTokens rest line
    rw [itemTokens, List.append_assoc]
    refine .append (.mono hitem ?_)
    rintro last ⟨document, hdocument, rfl⟩
    cases rest with
    | nil => exact ⟨[document], .cons hdocument .nil, rfl⟩
    | cons second others =>
      refine fun comma => .mono (hrest (document :: done) frames (List.cons_ne_nil _ _)) ?_
      rintro last ⟨documents, hdocuments, rfl⟩
      exact ⟨document :: documents, .cons hdocument hdocuments, by simp⟩
termination_by structural items

/-- Members are read in order, behind whatever members the object has already. -/
theorem after_memberTokens (members : List (String × Json)) (line : Nat)
    (done : List (Key × Document)) (frames : List Frame) (hmembers : members ≠ []) :
    (reading .key (.object line done :: frames)).After (memberTokens members)
      (HasMembers line done frames members) := by
  cases members with
  | nil => exact absurd rfl hmembers
  | cons member rest =>
    have hmember := after_nameTokens member line done frames
    have hrest := after_memberTokens rest line
    rw [memberTokens, List.append_assoc]
    refine .append (.mono hmember ?_)
    rintro last ⟨key, document, hname, hdocument, rfl⟩
    cases rest with
    | nil => exact ⟨[(key, document)], .cons hname hdocument .nil, rfl⟩
    | cons second others =>
      intro comma
      -- The comma changes the key of the member in front of it, but not the name in the key.
      let noted : Key × Document := ({ key with commaLine := some comma }, document)
      refine .mono (hrest (noted :: done) frames (List.cons_ne_nil _ _)) ?_
      rintro last ⟨documents, hdocuments, rfl⟩
      exact ⟨noted :: documents, .cons hname hdocument hdocuments, by simp⟩
termination_by structural members

theorem after_nameTokens (member : String × Json) (line : Nat) (done : List (Key × Document))
    (frames : List Frame) :
    (reading .key (.object line done :: frames)).After (nameTokens member)
      (HasMember line done frames member) := by
  obtain ⟨name, value⟩ := member
  intro nameLine colonLine
  refine .mono (after_tokens value _) ?_
  rintro last ⟨document, hdocument, rfl⟩
  exact ⟨_, document, rfl, hdocument, rfl⟩
termination_by structural member

end

end Progress

/-- A text that spells the tokens of a value is read into a document that holds the value, and
nothing follows. -/
theorem exists_read_eq {value : Json} {text : String}
    (htext : Spelled value.tokens text.toList) :
    ∃ document, document.Holds value ∧ read text = ⟨document, none⟩ := by
  obtain ⟨line, lexemes, hlexemes, htokens⟩ := htext.lexemes_eq
  have hafter := Progress.after_tokens value []
  rw [← htokens] at hafter
  obtain ⟨document, hdocument, hlast⟩ := hafter.foldl
  refine ⟨document, hdocument, ?_⟩
  rw [read, hlexemes, List.foldl_append, hlast]
  rfl

/-! ## Values are taken from documents -/

theorem itemValues?_eq {documents : List Document} {items : List Json} {depth : Nat}
    (hdocuments : ItemsHold documents items)
    (hitems : ∀ item ∈ items, ∀ document : Document, document.Holds item →
      document.value? depth = some item) :
    itemValues? depth documents = some items := by
  induction items generalizing documents with
  | nil =>
    cases hdocuments
    rfl
  | cons item rest ih =>
    obtain ⟨hitem, hrest⟩ := List.forall_mem_cons.mp hitems
    cases hdocuments with
    | cons hdocument hdocuments => simp [itemValues?, hitem _ hdocument, ih hdocuments hrest]

theorem memberValues?_eq {documents : List (Key × Document)} {members : List (String × Json)}
    {depth : Nat} (hdocuments : MembersHold documents members)
    (hmembers : ∀ member ∈ members, ∀ document : Document, document.Holds member.2 →
      document.value? depth = some member.2) :
    memberValues? depth documents = some members := by
  induction members generalizing documents with
  | nil =>
    cases hdocuments
    rfl
  | cons member rest ih =>
    obtain ⟨hmember, hrest⟩ := List.forall_mem_cons.mp hmembers
    cases hdocuments with
    | cons hname hdocument hdocuments =>
      simp [memberValues?, memberValue?, hname, hmember _ hdocument, ih hdocuments hrest]

/-- The value that a document holds is taken from it, if it is not nested too deep and its numbers
are read back. -/
theorem Document.Holds.value?_eq {value : Json} {depth : Nat}
    (hvalue : value.IsWithin Number.IsReadBack depth) {document : Document}
    (hdocument : document.Holds value) : document.value? depth = some value := by
  induction hvalue generalizing document with
  | null | boolean | string =>
    cases hdocument
    rfl
  | number hnumber =>
    cases hdocument
    exact congrArg (Option.map Json.number) hnumber
  | array _ ih =>
    cases hdocument with
    | array _ _ hitems =>
      simp [value?, itemValues?_eq hitems fun item hitem _ => ih item hitem]
  | object _ ih =>
    cases hdocument with
    | object _ _ hmembers =>
      simp [value?, memberValues?_eq hmembers fun member hmember _ => ih member hmember]

/-! ## Values that are taken from documents -/

mutual

/-- A value that is taken from a document is not nested deeper than allowed, and its numbers are in
range. -/
theorem Document.isWithin_of_value? (document : Document) {depth : Nat} {value : Json}
    (hvalue : document.value? depth = some value) : value.IsWithin Number.IsInRange depth := by
  cases document with
  | null line =>
    cases hvalue
    exact .null
  | boolean line value =>
    cases hvalue
    exact .boolean value
  | number line written =>
    obtain ⟨number, hnumber, rfl⟩ := Option.map_eq_some_iff.mp hvalue
    exact .number (Number.isInRange_of_ofText? hnumber)
  | string line text =>
    obtain ⟨text, -, rfl⟩ := Option.map_eq_some_iff.mp hvalue
    exact .string text
  | array line items ending =>
    cases ending with
    | broken readLine skipLine => cases hvalue
    | closed closing =>
      cases depth with
      | zero => cases hvalue
      | succ depth =>
        obtain ⟨values, hvalues, rfl⟩ := Option.map_eq_some_iff.mp hvalue
        exact .array (isWithin_of_itemValues? items hvalues)
  | object line members ending =>
    cases ending with
    | broken readLine skipLine => cases hvalue
    | closed closing =>
      cases depth with
      | zero => cases hvalue
      | succ depth =>
        obtain ⟨values, hvalues, rfl⟩ := Option.map_eq_some_iff.mp hvalue
        exact .object (isWithin_of_memberValues? members hvalues)
  | cut place => cases hvalue
termination_by structural document

theorem isWithin_of_itemValues? (items : List Document) {depth : Nat} {values : List Json}
    (hvalues : itemValues? depth items = some values) :
    ∀ value ∈ values, value.IsWithin Number.IsInRange depth := by
  cases items with
  | nil =>
    cases hvalues
    nofun
  | cons item rest =>
    simp only [itemValues?, Option.bind_eq_bind, Option.bind_eq_some_iff] at hvalues
    obtain ⟨value, hvalue, others, hothers, hvalues⟩ := hvalues
    cases hvalues
    exact List.forall_mem_cons.mpr
      ⟨item.isWithin_of_value? hvalue, isWithin_of_itemValues? rest hothers⟩
termination_by structural items

theorem isWithin_of_memberValues? (members : List (Key × Document)) {depth : Nat}
    {values : List (String × Json)} (hvalues : memberValues? depth members = some values) :
    ∀ value ∈ values, value.2.IsWithin Number.IsInRange depth := by
  cases members with
  | nil =>
    cases hvalues
    nofun
  | cons member rest =>
    simp only [memberValues?, Option.bind_eq_bind, Option.bind_eq_some_iff] at hvalues
    obtain ⟨value, hvalue, others, hothers, hvalues⟩ := hvalues
    cases hvalues
    exact List.forall_mem_cons.mpr
      ⟨isWithin_of_memberValue? member hvalue, isWithin_of_memberValues? rest hothers⟩
termination_by structural members

theorem isWithin_of_memberValue? (member : Key × Document) {depth : Nat} {value : String × Json}
    (hvalue : memberValue? depth member = some value) :
    value.2.IsWithin Number.IsInRange depth := by
  obtain ⟨key, document⟩ := member
  simp only [memberValue?, Option.bind_eq_bind, Option.bind_eq_some_iff] at hvalue
  obtain ⟨name, -, taken, htaken, hvalue⟩ := hvalue
  cases hvalue
  exact document.isWithin_of_value? htaken
termination_by structural member

end

end QueryModel.Json
