import BrowserTab.Language.Resolver.Basic
import BrowserTab.Outline

/-!
# Outlines of tables and resolvers

How the language part of a tab is printed for diagnosis. A resolver's outline tells whether it has a
classifier and leaves out which.
-/

namespace BrowserTab.Language

def Mapping.outline (m : Mapping) : String :=
  Outline.pair (Outline.quoted m.source) (Outline.quoted m.target)

def Membership.outline (m : Membership) : String :=
  Outline.pair (Outline.quoted m.code) (toString m.group)

def Tables.outline (t : Tables) : String :=
  Outline.whole "LanguageTables" [
    ("similitudes", Outline.items (t.similitudes.map Mapping.outline)),
    ("synonyms", Outline.items (t.synonyms.map Mapping.outline)),
    ("similar_groups", Outline.items (t.groups.map Membership.outline)),
    ("misconfigured_as_english", Outline.items (t.misconfigured.map Outline.quoted))]

def Settings.outline (s : Settings) : String :=
  Outline.whole "ResolverConfig" [("min_reliable_text_bytes", toString s.minReliableBytes)]

def Resolver.outline (r : Resolver) : String :=
  Outline.abridged "LanguageResolver" [
    ("tables", r.tables.outline),
    ("config", r.settings.outline),
    ("classifier_enabled", toString r.classifier.isSome)]

end BrowserTab.Language
