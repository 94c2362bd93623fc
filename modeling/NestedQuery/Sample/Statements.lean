/-
Statements that show one thing each.
-/
import NestedQuery.Syntax.Compose

namespace NestedQuery.Sample

open NestedQuery.Syntax

/-- `SELECT FOO.* FROM 1 AS foo WHERE FOO`: a FROM source that is no collection, and names that differ
in case. -/
def starOverLiteral : Statement :=
  ((Select.ofProjection (.list [.all (.unpivoted (.bare "FOO" ⟨1, 8⟩))])).addFrom
    (.scan ⟨.int 1, some (.bare "foo" ⟨1, 24⟩), none, none, ⟨1, 19⟩⟩)).addWhere
    (.bare "FOO" ⟨1, 34⟩) |>.toStatement

/-- `SELECT VALUE o FROM orders AS o, o.items AS i WHERE i.qty > 1`: a source that refers to the one
before it. -/
def ordersWithItems : Statement :=
  ((Select.ofProjection (.value (.bare "o" ⟨1, 14⟩))).addFrom
    (.cross (.scan ⟨.bare "orders" ⟨1, 21⟩, some (.bare "o" ⟨1, 31⟩), none, none, {}⟩)
      (.scan ⟨.fields (.bare "o" ⟨1, 34⟩) ["items"], some (.bare "i" ⟨1, 45⟩), none, none, {}⟩))).addWhere
    (.binary .gt (.fields (.bare "i" ⟨1, 53⟩) ["qty"]) (.int 1)) |>.toStatement

/-- `SELECT VALUE @s FROM t AS s, @s AS s`: an alias that hides another. -/
def shadowedAlias : Statement :=
  (Select.ofProjection (.value (.localOnly "s" ⟨1, 14⟩))).addFrom
    (.cross (.scan ⟨.bare "t" ⟨1, 22⟩, some (.bare "s" ⟨1, 27⟩), none, none, {}⟩)
      (.scan ⟨.localOnly "s" ⟨1, 30⟩, some (.bare "s" ⟨1, 36⟩), none, none, {}⟩)) |>.toStatement

/-- `SELECT VALUE y FROM a AS x AT i BY j`: a name that no alias declares. -/
def unknownInScope : Statement :=
  (Select.ofProjection (.value (.bare "y" ⟨1, 14⟩))).addFrom
    (.scan ⟨.bare "a" ⟨1, 21⟩, some (.bare "x" ⟨1, 26⟩), some (.bare "i" ⟨1, 31⟩),
      some (.bare "j" ⟨1, 36⟩), {}⟩) |>.toStatement

/-- `UPDATE orders AS o SET o.status = 'shipped' WHERE o.id = 7`. -/
def updateOrders : Statement :=
  .dml ⟨[.set [⟨.ofFields (.bare "o" ⟨1, 24⟩) ["status"], .string "shipped"⟩]],
    some ⟨.bare "orders" ⟨1, 8⟩, some (.bare "o" ⟨1, 18⟩), none, none,
      some (.equals (.fields (.bare "o" ⟨1, 51⟩) ["id"]) (.int 7))⟩,
    ⟨1, 1⟩⟩

/-- `INSERT INTO "Foo" << {'a': 1} >>`. -/
def insertIntoQuoted : Statement :=
  (Mutation.empty.addOp (.insert (.quoted "Foo" ⟨1, 13⟩)
    (.collection .bag [.struct [⟨.string "a", .int 1⟩]]))).toStatement

end NestedQuery.Sample
