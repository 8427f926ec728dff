import JqTemplate.Command.Run

namespace JqTemplate

namespace Config

open Text

def Fault.isComplaint : Fault → Bool
  | .complaint _ _ => true
  | _ => false

section Sections

variable {α : Type} (read : Toml.Table → Except Complaint α) (data : Toml.Table) (name : String)

def IsSound : Prop :=
  ∀ value, data.get? name.toList = some value →
    ∃ entries a, value = .table entries ∧ read entries = .ok a

/-- What is wrong with a section and no complaint: it is no table, or there is a complaint about a
value that cannot be shown. -/
inductive SectionUnforeseen : Fault → Prop
  | loose {value : Toml.Value} (entry : data.get? name.toList = some value)
      (other : ∀ entries, value ≠ .table entries) : SectionUnforeseen (.notATable value.typeName)
  | unshowable {entries : Toml.Table} {cause : Complaint} {value : Toml.Value}
      (entry : data.get? name.toList = some (.table entries)) (faulty : read entries = .error cause)
      (about : cause.value? = some value) (long : value.isShowable = false) :
      SectionUnforeseen (.tooManyDigits none)

def readNamed (path : String) (default : α) : Except Fault α :=
  match section? data name with
  | .error fault => .error fault
  | .ok entries => readSection path default read entries

variable {read data name} {path : String} {default : α} {fault : Fault}

theorem section_loose {value : Toml.Value} (entry : data.get? name.toList = some value)
    (other : ∀ entries, value ≠ .table entries) : section? data name =
      .error (.notATable value.typeName) := by
  unfold section?
  rw [entry]
  cases value with
  | table entries => exact absurd rfl (other entries)
  | _ => rfl

theorem section_table {entries : Toml.Table}
    (entry : data.get? name.toList = some (.table entries)) : section? data name =
      .ok (some entries) := by
  unfold section?
  rw [entry]

theorem complain_cases (path : String) (cause : Complaint) :
    complain path cause = .complaint path cause ∨
      complain path cause = .tooManyDigits none ∧
        ∃ value, cause.value? = some value ∧ value.isShowable = false := by
  unfold complain
  cases about : cause.value? with
  | none => exact .inl rfl
  | some value =>
    cases shown : value.isShowable with
    | true => exact .inl (if_pos shown)
    | false => exact .inr ⟨if_neg (by simp [shown]), value, rfl, shown⟩

theorem IsSound.readNamed (sound : IsSound read data name) :
    ∃ a, readNamed read data name path default = .ok a := by
  unfold Config.readNamed
  cases entry : data.get? name.toList with
  | none =>
    have missing : section? data name = .ok none := by
      unfold section?
      rw [entry]
    exact ⟨default, by simp [missing, readSection]⟩
  | some value =>
    obtain ⟨entries, a, rfl, taken⟩ := sound value entry
    exact ⟨a, by simp [section_table entry, readSection, taken]⟩

theorem SectionUnforeseen.readNamed (unforeseen : SectionUnforeseen read data name fault) :
    readNamed read data name path default = .error fault := by
  unfold Config.readNamed
  cases unforeseen with
  | loose entry other => rw [section_loose entry other]
  | unshowable entry faulty about long =>
    simp [section_table entry, readSection, faulty, complain, about, long]

theorem SectionUnforeseen.not_complaint (unforeseen : SectionUnforeseen read data name fault) :
    fault.isComplaint = false := by
  cases unforeseen <;> rfl

theorem readNamed_cases (read : Toml.Table → Except Complaint α) (data : Toml.Table)
    (name path : String) (default : α) :
    IsSound read data name ∨
      (∃ cause, readNamed read data name path default = .error (.complaint path cause)) ∨
      ∃ fault, SectionUnforeseen read data name fault := by
  cases entry : data.get? name.toList with
  | none =>
    refine .inl fun value there => ?_
    rw [entry] at there
    cases there
  | some value =>
    by_cases tabular : ∃ entries, value = .table entries
    · obtain ⟨entries, rfl⟩ := tabular
      cases taken : read entries with
      | ok a =>
        refine .inl fun value there => ?_
        rw [entry] at there
        exact ⟨entries, a, (Option.some.inj there).symm, taken⟩
      | error cause =>
        rcases complain_cases path cause with told | ⟨_, value, about, long⟩
        · refine .inr (.inl ⟨cause, ?_⟩)
          simp [readNamed, section_table entry, readSection, taken, told]
        · exact .inr (.inr ⟨_, .unshowable entry taken about long⟩)
    · exact .inr (.inr ⟨_, .loose entry fun entries same => tabular ⟨entries, same⟩⟩)

end Sections

/-- What is wrong with a file and no complaint. The section on files counts only where the one on
checks is sound. -/
inductive Unforeseen (octets : List Nat) : Fault → Prop
  | undecodable {fault : Utf8.Fault} (bad : Utf8.decode octets = .error fault) :
      Unforeseen octets (.undecodable fault)
  | overlong {text : List Char} {count : Nat} (decoded : Utf8.decode octets = .ok text)
      (long : Toml.parse text = .error (.tooManyDigits count)) :
      Unforeseen octets (.tooManyDigits (some count))
  | checks {text : List Char} {data : Toml.Table} {fault : Fault}
      (decoded : Utf8.decode octets = .ok text) (parsed : Toml.parse text = .ok data)
      (first : SectionUnforeseen readCheck data "check" fault) : Unforeseen octets fault
  | files {text : List Char} {data : Toml.Table} {fault : Fault}
      (decoded : Utf8.decode octets = .ok text) (parsed : Toml.parse text = .ok data)
      (sound : IsSound readCheck data "check")
      (second : SectionUnforeseen readPatterns data "files" fault) : Unforeseen octets fault

section Loading

variable {octets : List Nat} {text : List Char} {data : Toml.Table} {fault : Fault}

theorem ofTable_eq (path : String) (data : Toml.Table) :
    ofTable path data =
      match readNamed readCheck data "check" path {} with
      | .error fault => .error fault
      | .ok check =>
        (readNamed readPatterns data "files" path ({} : Config).patterns).map fun patterns =>
          ⟨check, patterns⟩ := by
  simp only [ofTable, bind, Except.bind]
  unfold readNamed
  cases section? data "check" with
  | error fault => rfl
  | ok first =>
    dsimp only
    cases readSection path {} readCheck first with
    | error fault => rfl
    | ok check =>
      cases section? data "files" with
      | error fault => rfl
      | ok second =>
        dsimp only
        cases readSection path ({} : Config).patterns readPatterns second <;> rfl

theorem load_decoded (path : String) (decoded : Utf8.decode octets = .ok text) :
    load path (.ok octets) = ofText path text := by
  simp only [load, decoded]

theorem load_parsed (path : String) (decoded : Utf8.decode octets = .ok text)
    (parsed : Toml.parse text = .ok data) : load path (.ok octets) = ofTable path data := by
  rw [load_decoded path decoded]
  simp only [ofText, parsed]

theorem Unforeseen.load (unforeseen : Unforeseen octets fault) (path : String) :
    load path (.ok octets) = .error fault := by
  cases unforeseen with
  | undecodable bad => simp only [Config.load, bad]
  | overlong decoded long =>
    rw [load_decoded path decoded]
    simp only [ofText, long]
  | checks decoded parsed first => rw [load_parsed path decoded parsed, ofTable_eq, first.readNamed]
  | files decoded parsed sound second =>
    obtain ⟨check, taken⟩ := sound.readNamed
    rw [load_parsed path decoded parsed, ofTable_eq, taken, second.readNamed]
    rfl

theorem Unforeseen.not_missing (unforeseen : Unforeseen octets fault) : fault.isMissing = false := by
  cases unforeseen with
  | undecodable bad => rfl
  | overlong decoded long => rfl
  | checks decoded parsed first => cases first <;> rfl
  | files decoded parsed sound second => cases second <;> rfl

theorem Unforeseen.not_complaint (unforeseen : Unforeseen octets fault) :
    fault.isComplaint = false := by
  cases unforeseen with
  | undecodable bad => rfl
  | overlong decoded long => rfl
  | checks decoded parsed first => exact first.not_complaint
  | files decoded parsed sound second => exact second.not_complaint

theorem load_cases (path : String) (octets : List Nat) :
    (∃ config, load path (.ok octets) = .ok config) ∨
      (∃ cause, load path (.ok octets) = .error (.complaint path cause)) ∨
      ∃ fault, Unforeseen octets fault := by
  cases decoded : Utf8.decode octets with
  | error fault => exact .inr (.inr ⟨_, .undecodable decoded⟩)
  | ok text =>
    cases parsed : Toml.parse text with
    | error failure =>
      cases failure with
      | malformed message =>
        refine .inr (.inl ⟨.malformed message, ?_⟩)
        rw [load_decoded path decoded]
        simp only [ofText, parsed]
      | tooManyDigits count => exact .inr (.inr ⟨_, .overlong decoded parsed⟩)
    | ok data =>
      rw [load_parsed path decoded parsed, ofTable_eq]
      rcases readNamed_cases readCheck data "check" path {} with sound | ⟨cause, told⟩ | ⟨_, first⟩
      · obtain ⟨check, taken⟩ := sound.readNamed
        rw [taken]
        rcases readNamed_cases readPatterns data "files" path ({} : Config).patterns with
          sound' | ⟨cause, told⟩ | ⟨_, second⟩
        · obtain ⟨patterns, taken'⟩ := sound'.readNamed
          exact .inl ⟨⟨check, patterns⟩, by rw [taken']; rfl⟩
        · exact .inr (.inl ⟨cause, by rw [told]; rfl⟩)
        · exact .inr (.inr ⟨_, .files decoded parsed sound second⟩)
      · exact .inr (.inl ⟨cause, by rw [told]⟩)
      · exact .inr (.inr ⟨_, .checks decoded parsed first⟩)

theorem loaded_or_told_iff (path : String) (octets : List Nat) :
    ((∃ config, load path (.ok octets) = .ok config) ∨
      ∃ cause, load path (.ok octets) = .error (.complaint path cause)) ↔
      ¬ ∃ fault, Unforeseen octets fault := by
  constructor
  · rintro foreseen ⟨fault, unforeseen⟩
    have outcome := unforeseen.load path
    have silent := unforeseen.not_complaint
    rcases foreseen with ⟨config, loaded⟩ | ⟨cause, told⟩
    · rw [loaded] at outcome
      cases outcome
    · rw [told] at outcome
      cases outcome
      cases silent
  · intro foreseen
    rcases load_cases path octets with loaded | told | unforeseen
    · exact .inl loaded
    · exact .inr told
    · exact absurd unforeseen foreseen

/-- What is wrong with the octets of a file never looks as if there were no file. -/
theorem load_not_missing {path : String} (failed : load path (.ok octets) = .error fault) :
    fault.isMissing = false := by
  rcases load_cases path octets with ⟨config, loaded⟩ | ⟨cause, told⟩ | ⟨other, unforeseen⟩
  · exact nomatch loaded.symm.trans failed
  · cases told.symm.trans failed
    rfl
  · cases (unforeseen.load path).symm.trans failed
    exact unforeseen.not_missing

end Loading

end Config

namespace Command

open Files (System Tree Path)

section Telling

variable {sys : System} {target p : Path} {shades : Bool} {octets : List Nat}

theorem for_of_found {fault : Config.Fault} (found : Config.locate? sys target = .ok p)
    (content : sys.read p = .ok octets) (failed : Config.load p.text (.ok octets) = .error fault) :
    Config.for? sys target = .error fault := by
  have present := Config.load_not_missing failed
  simp [Config.for?, found, Except.bind, content, failed, present]

theorem inspect_told {cause : Config.Complaint} (found : Config.locate? sys target = .ok p)
    (content : sys.read p = .ok octets)
    (told : Config.load p.text (.ok octets) = .error (.complaint p.text cause)) :
    inspect sys shades target =
      .ok (Output.failed ("error: " ++ (p.text ++ ": " ++ cause.message))) := by
  simp only [inspect, for_of_found found content told]
  rfl

theorem inspect_unforeseen {fault : Config.Fault} (found : Config.locate? sys target = .ok p)
    (content : sys.read p = .ok octets) (unforeseen : Config.Unforeseen octets fault) :
    inspect sys shades target = .error (.config fault) := by
  have silent := unforeseen.not_complaint
  unfold inspect
  rw [for_of_found found content (unforeseen.load p.text)]
  cases fault with
  | complaint path cause => cases silent
  | _ => rfl

end Telling

/-- A file that is no configuration is told of in one line under its path, and the run fails, unless
its fault is one of the unforeseen ones; then the fault itself ends the run. -/
theorem misconfiguration_told_unless_unforeseen (path : String) (octets : List Nat) :
    (((∃ config, Config.load path (.ok octets) = .ok config) ∨
      ∃ cause, Config.load path (.ok octets) = .error (.complaint path cause)) ↔
      ¬ ∃ fault, Config.Unforeseen octets fault) ∧
    (∀ fault, Config.Unforeseen octets fault →
      Config.load path (.ok octets) = .error fault ∧ fault.isComplaint = false) ∧
    ∀ (sys : System) (target : String) (shades : Bool) (p : Path),
      Config.locate? sys (Path.ofString target) = .ok p → sys.read p = .ok octets →
        (∀ cause, Config.load p.text (.ok octets) = .error (.complaint p.text cause) →
          Request.perform sys (.check target shades) = .ok
            { stderr := ended ["error: " ++ (p.text ++ ": " ++ cause.message)], status := 1 }) ∧
        ∀ fault, Config.Unforeseen octets fault →
          Request.perform sys (.check target shades) = .error (.config fault) := by
  refine ⟨Config.loaded_or_told_iff path octets, fun fault unforeseen =>
    ⟨unforeseen.load path, unforeseen.not_complaint⟩, ?_⟩
  intro sys target shades p found content
  exact ⟨fun cause told => inspect_told found content told,
    fun fault unforeseen => inspect_unforeseen found content unforeseen⟩

/-- A file that ends behind a key is told of, one that ends inside a character is not. -/
theorem cut_file_told :
    let sys (octets : List Nat) : System := Tree.system ⟨[(["jqtpl.toml"], .file octets)]⟩ []
    let p : Path := ⟨.single, ["jqtpl.toml"]⟩
    let cause : Config.Complaint :=
      .malformed "Expected '=' after a key in a key/value pair (at end of document)"
    let fault : Config.Fault := .undecodable ⟨0, 2, 226, .unexpectedEnd⟩
    (∀ octets, Config.locate? (sys octets) (Path.ofString ".") = .ok p ∧
      (sys octets).read p = .ok octets) ∧
      Request.perform (sys [97]) (.check "." true) = .ok
        { stderr := ended ["error: " ++ (p.text ++ ": " ++ cause.message)], status := 1 } ∧
      Config.load p.text (.ok [226, 130]) = .error fault ∧
      Request.perform (sys [226, 130]) (.check "." true) = .error (.config fault) := by
  intro sys p cause fault
  have found (octets : List Nat) : Config.locate? (sys octets) (Path.ofString ".") = .ok p := by rfl
  have content (octets : List Nat) : (sys octets).read p = .ok octets := by rfl
  have told : Config.load p.text (.ok [97]) = .error (.complaint p.text cause) := by rfl
  have unforeseen : Config.Unforeseen [226, 130] fault := .undecodable rfl
  obtain ⟨_, _, runs⟩ := misconfiguration_told_unless_unforeseen p.text [97]
  obtain ⟨_, loads, runs'⟩ := misconfiguration_told_unless_unforeseen p.text [226, 130]
  refine ⟨fun octets => ⟨found octets, content octets⟩, ?_, (loads fault unforeseen).1, ?_⟩
  · exact (runs _ "." true p (found _) (content _)).1 cause told
  · exact (runs' _ "." true p (found _) (content _)).2 fault unforeseen

theorem undecodable_file_not_told :
    let sys : System := Tree.system ⟨[(["jqtpl.toml"], .file [255])]⟩ []
    let fault : Config.Fault := .undecodable ⟨0, 1, 255, .invalidStart⟩
    Config.load "/jqtpl.toml" (.ok [255]) = .error fault ∧
      Request.perform sys (.check "." true) = .error (.config fault) ∧
      ¬ ∀ path octets, (∃ config, Config.load path (.ok octets) = .ok config) ∨
        ∃ cause, Config.load path (.ok octets) = .error (.complaint path cause) := by
  intro sys fault
  refine ⟨rfl, rfl, fun all => ?_⟩
  rcases all "/jqtpl.toml" [255] with ⟨config, loaded⟩ | ⟨cause, told⟩
  · cases loaded
  · cases told

end Command

end JqTemplate
