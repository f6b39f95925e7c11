import Moorage.Naming
import Moorage.Proofs.Reference

/-!
# `Moorage.Proofs.Naming`: what the name of a runtime object tells

A fully qualified name is a name, the word for a type and the domain, with dots between them.
Names may have dots of their own, and the names of a cluster's nodes do: the node's word, a dot
and the cluster's name. Nothing is confused all the same:

* `fqdn_injective`: the word for the type is the last part before the domain, since it has no
  dot, and everything before it is the name.
* `lead_injective`: the word of a node is the first part of its name, since it has no dot.

The first is read from the right and the second from the left. Together they tell the node of
a cluster from every other container: a container that was named like a node has another type, and
the type is in the name.
-/

set_option autoImplicit false

namespace Moorage.Naming

/-- A fully qualified name, as characters. -/
theorem toList_fqdn (name kind : String) :
    (fqdn name kind).toList = name.toList ++ '.' :: (kind.toList ++ '.' :: domain.toList) := by
  simp [fqdn, toString]

/-- What stands before a fully qualified name belongs to the name in it. The names of nodes are
made in this way, from a word and the name of their cluster. -/
theorem append_fqdn (lead name kind : String) :
    lead ++ fqdn name kind = fqdn (lead ++ name) kind := by
  rw [← String.toList_inj, String.toList_append, toList_fqdn, toList_fqdn, String.toList_append,
    List.append_assoc]

/-- Objects with the same fully qualified name have the same name and the same type. The word for
the type is found from the end, where the domain and one dot stand behind it. -/
theorem fqdn_injective {m n : String} {t u : ResourceType}
    (h : fqdn m t.keyword = fqdn n u.keyword) : m = n ∧ t = u := by
  rw [← String.toList_inj, toList_fqdn, toList_fqdn] at h
  -- Both end in the domain, and read backwards the first dot is the one before the type.
  have hfront : m.toList ++ '.' :: t.keyword.toList = n.toList ++ '.' :: u.keyword.toList := by
    have hlast : (m.toList ++ '.' :: t.keyword.toList) ++ '.' :: domain.toList
        = (n.toList ++ '.' :: u.keyword.toList) ++ '.' :: domain.toList := by
      simpa using h
    exact List.append_cancel_right hlast
  have hback := congrArg List.reverse hfront
  simp only [List.reverse_append, List.reverse_cons, List.append_assoc, List.singleton_append]
    at hback
  have hcut := congrArg (Text.cutFirst '.') hback
  rw [Text.cutFirst_append (mt List.mem_reverse.mp t.dot_notMem_keyword),
    Text.cutFirst_append (mt List.mem_reverse.mp u.dot_notMem_keyword)] at hcut
  obtain ⟨htype, hname⟩ := Prod.mk.inj (Option.some.inj hcut)
  have hkeyword : t.keyword = u.keyword := String.toList_inj.mp (List.reverse_inj.mp htype)
  exact ⟨String.toList_inj.mp (List.reverse_inj.mp hname), ResourceType.keyword_injective hkeyword⟩

/-- Names that begin with words and dots are the same only if the words and the rests are. The
words have no dot, and the rests may have any. -/
theorem lead_injective {v w m n : String} (hv : '.' ∉ v.toList) (hw : '.' ∉ w.toList)
    (h : v ++ "." ++ m = w ++ "." ++ n) : v = w ∧ m = n := by
  have hlist : v.toList ++ '.' :: m.toList = w.toList ++ '.' :: n.toList := by
    simpa using congrArg String.toList h
  have hcut := congrArg (Text.cutFirst '.') hlist
  rw [Text.cutFirst_append hv, Text.cutFirst_append hw] at hcut
  obtain ⟨hword, hrest⟩ := Prod.mk.inj (Option.some.inj hcut)
  exact ⟨String.toList_inj.mp hword, String.toList_inj.mp hrest⟩

/-- The decimal text of a number has no dot. -/
theorem dot_notMem_toString (n : Nat) : '.' ∉ (toString n).toList := by
  rw [Nat.toString_eq_repr, Nat.toList_repr]
  intro hdot
  have hdigit := Nat.isDigit_of_mem_toDigits (b := 10) (by decide) (by decide) hdot
  simp at hdigit

/-- A word and a number make a word. The agents and clients of a cluster are numbered. -/
theorem dot_notMem_numbered {word : String} (h : '.' ∉ word.toList) (n : Nat) :
    '.' ∉ (word ++ toString n).toList := by
  rw [String.toList_append, List.mem_append, not_or]
  exact ⟨h, dot_notMem_toString n⟩

end Moorage.Naming
