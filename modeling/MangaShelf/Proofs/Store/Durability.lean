import MangaShelf.Proofs.Command.Arguments
import MangaShelf.Proofs.Web.Registration

/-!
# What stays stored

After any history the rows are sound, so that a lookup never finds several, and they hold the
addresses of the accepted registrations. A registration is stored whatever becomes of its manifest;
nothing else that is asked of the program changes what is stored: `Registry.rows_after`.
-/

namespace MangaShelf

namespace Registry

/-- After any history the rows are sound. -/
lemma sound_after (program : String) (setup : Web.Setup) (history : List Access) :
    (after program setup history).Sound := by
  induction history using List.reverseRecOn with
  | nil => exact sound_empty
  | append_singleton history a ih =>
    rw [after, List.foldl_append, ← after, List.foldl_cons, List.foldl_nil, Access.step_eq]
    exact ih.registerAll _

end Registry

/-! ### From the command line -/

namespace Command

variable {program : String} {setup : Web.Setup} {source : Source} {registry : Registry}
  {args : List String} {url : String}

lemma parse_of_registers? (h : registers? args = some url) :
    parse false args = .task (.register url) := by
  unfold registers? at h
  split at h <;> simp_all

/-- The address that a list of arguments registers is one of them, as it is. -/
lemma mem_of_registers? (h : registers? args = some url) : url ∈ args :=
  mem_of_parse (parse_of_registers? h)

/-- An address that is no option is registered when it follows the name of the task. -/
lemma registers?_register (h : url.toList.head? ≠ some '-') :
    registers? ["register", url] = some url := by
  have hne : url ≠ "--" := by
    rintro rfl
    exact h (by decide)
  have hword : TaskName.ofWord? "register" = some .register := by decide
  have hrole : roleOf false "register" = .plain := by decide
  simp [registers?, parse, hrole, invoke, hword, readArguments, hne, roleOf_plain h,
    Arguments.take, TaskName.arity, fits, taskOf?]

/-- The code of a run that registers tells whether there is a manifest. -/
lemma code_of_registers (hsound : registry.Sound) (h : registers? args = some url) :
    (run program setup source registry args).2.code =
      if (Catalog.manifest (setup.context (registry.register url)) (some url) source).outcome.isOk
      then 0 else 1 := by
  obtain ⟨row, -, -, hrow⟩ := hsound.start_register url
  simp only [run, parse_of_registers? h, runTask, hrow]
  rw [registerTask, Outcome.ofRun,
    show (Session.start (registry.register url)).stored = registry.register url from rfl]
  cases (Catalog.manifest (setup.context (registry.register url)) (some url) source).outcome with
  | ok m => rfl
  | error failure => cases failure <;> rfl

end Command

/-- After any history the rows hold the addresses of the accepted registrations, each once and in
the order in which they first came, numbered from one. A further registration always ends with the
row of its address, and with the row that is there if there is one. A request that is no accepted
registration leaves the rows as they are; one that is has stored the given address, without blanks
around it, also if there is no manifest and the reply is an error. The same holds for the command
line, where an address is stored as it is given. -/
theorem Registry.rows_after (program : String) (setup : Web.Setup) (history : List Access) :
    let registry := after program setup history
    (registry.urls = RequestField.distinct [] (Access.registrations history) ∧
      registry.urls.Nodup ∧
      registry.rows.map (·.id) = List.range' 1 registry.rows.length) ∧
    (∀ url, ∃ row ∈ (registry.register url).rows, row.url = url ∧
      (Session.start registry).register url = (Session.start (registry.register url), .ok row)) ∧
    (∀ row ∈ registry.rows,
      (Session.start registry).register row.url = (Session.start registry, .ok row)) ∧
    (∀ (source : Source) (r : Web.Request),
      let answered := Web.handle setup source registry r
      (r.registers? = none → answered.1 = registry) ∧
      (Web.Route.ofPath? r.path = some .register → r.method = Web.Route.register.method →
        source.RefusesNone →
        (r.registers? = none ↔ answered.2.status = 422 ∨ answered.2.status = 400)) ∧
      ∀ url, r.registers? = some url →
        (∃ text, r.connectionText? = some text ∧ url = Text.trim text) ∧
        url ∈ answered.1.urls ∧
        (source.RefusesNone →
          answered.2.status =
            if (Catalog.manifest (setup.context registry) (some url) source).outcome.isOk then 200
            else 500)) ∧
    (∀ url : String, url.toList.head? ≠ some '-' →
      Command.registers? ["register", url] = some url) ∧
    ∀ (source : Source) (args : List String),
      let ran := Command.run program setup source registry args
      (Command.registers? args = none → ran.1 = registry) ∧
      ∀ url, Command.registers? args = some url →
        url ∈ args ∧
        url ∈ ran.1.urls ∧
        ran.2.code =
          if (Catalog.manifest (setup.context ran.1) (some url) source).outcome.isOk then 0
          else 1 := by
  intro registry
  have hsound : registry.Sound := sound_after program setup history
  refine ⟨⟨urls_after program setup history, hsound.distinct, hsound.numbered⟩,
    hsound.start_register, fun row => hsound.start_register_of_mem, ?_,
    fun url => Command.registers?_register, ?_⟩
  · intro source r answered
    have hstored : answered.1 = _ := Web.handle_registry setup source registry r
    refine ⟨fun hnone => ?_, fun hroute hmethod hsource =>
      Web.registers?_eq_none_iff hsound hsource hroute hmethod, fun url hurl => ?_⟩
    · rw [hstored, hnone]
      rfl
    · refine ⟨(Web.Request.registers?_trimmed hurl).1, ?_,
        fun hsource => Web.status_of_registers hsound hsource hurl⟩
      rw [hstored, hurl]
      exact mem_urls_register registry url
  · intro source args ran
    have hstored : ran.1 = _ := Command.run_registry program setup source registry args
    refine ⟨fun hnone => ?_, fun url hurl => ?_⟩
    · rw [hstored, hnone]
      rfl
    · have hregistry : ran.1 = registry.register url := by
        rw [hstored, hurl]
        rfl
      rw [hregistry]
      exact ⟨Command.mem_of_registers? hurl, mem_urls_register registry url,
        Command.code_of_registers hsound hurl⟩

/-- A source that has nothing. -/
def Source.nothing : Source :=
  ⟨fun _ => .ok none, fun _ => .ok none, fun _ => .ok none⟩

/-- A request to register an address, with blanks around it. -/
def Web.Request.paddedRegistration : Web.Request where
  method := "POST"
  path := "/api/register"
  query := []
  contentType := some "application/json"
  body := Text.utf8Bytes "\x7b\"connectionUrl\": \" http://a.test \"\x7d"

/-- Without any manifest, what is registered by requests and from the command line is stored. -/
theorem Registry.rows_after_without_manifest :
    let setup : Web.Setup := ⟨none, 5000000, Script.addresses⟩
    let registry := after "cli.py" setup
      [.request .nothing .paddedRegistration, .command .nothing ["register", "http://b.test"]]
    registry.rows = [⟨1, "http://a.test"⟩, ⟨2, "http://b.test"⟩] ∧
      (Web.handle setup .nothing registry .paddedRegistration).2.status = 500 ∧
      "http://a.test" ∈ (Web.handle setup .nothing registry .paddedRegistration).1.urls ∧
      (Command.run "cli.py" setup .nothing registry ["register", "http://a.test"]).2.code = 1 := by
  intro setup registry
  have hrefuses : Source.nothing.RefusesNone := fun _ _ h => nomatch h
  have hrequest : Web.Request.paddedRegistration.registers? = some "http://a.test" := by
    decide +kernel
  have hcommand : Command.registers? ["register", "http://a.test"] = some "http://a.test" := by
    decide
  obtain ⟨-, -, -, hrequests, -, hcommands⟩ := rows_after "cli.py" setup
    [.request .nothing .paddedRegistration, .command .nothing ["register", "http://b.test"]]
  obtain ⟨-, hstored, hstatus⟩ := (hrequests .nothing .paddedRegistration).2.2 _ hrequest
  obtain ⟨-, -, hcode⟩ := (hcommands .nothing ["register", "http://a.test"]).2 _ hcommand
  exact ⟨by decide +kernel, hstatus hrefuses, hstored, hcode⟩

end MangaShelf
